/-
Spans of characters as sequences of byte ranges. A span is cut until the
encodings of its characters are all sequences of bytes from one range each; the
pieces come in the order of their characters.
-/
import Overlay.Power
import Overlay.Text.CharSet

namespace Overlay.Regex

open Text

/-- The bytes from `first` to `last`. -/
structure ByteRange where
  first : UInt8
  last : UInt8
  deriving DecidableEq, Repr

/-- The bytes of a code point: six bits in each but the first. -/
def encode (n : Nat) : List UInt8 :=
  let tail (k : Nat) : UInt8 := UInt8.ofNat (0x80 + n / twoTo (6 * k) % 64)
  if n < 0x80 then [UInt8.ofNat n]
  else if n < 0x800 then [UInt8.ofNat (0xC0 + n / 64), tail 0]
  else if n < 0x10000 then [UInt8.ofNat (0xE0 + n / twoTo 12), tail 1, tail 0]
  else [UInt8.ofNat (0xF0 + n / twoTo 18), tail 2, tail 1, tail 0]

/-- The bytes of a text. -/
def encodeAll (cs : List Char) : List UInt8 :=
  cs.flatMap fun c => encode c.toNat

/-- Where to cut a span because the encodings on both sides differ in length. -/
def lengthCut? (first last : Nat) : Option Nat :=
  [0x80, 0x800, 0x10000].find? fun n => first < n && n ≤ last

/-- Where to cut a span, all of one length, so that blocks of a size are whole
or alone. -/
def blockCut? (first last block : Nat) : Option Nat :=
  if first / block == last / block then none
  else if first % block != 0 then some ((first / block + 1) * block)
  else if (last + 1) % block != 0 then some (last / block * block)
  else none

/-- Where to cut a span: the first code point of its second piece. -/
def cut? (first last : Nat) : Option Nat :=
  lengthCut? first last <|>
    if last < 0x80 then none
    else
      blockCut? first last 64 <|> blockCut? first last 4096
        <|> blockCut? first last 262144

/-- The pieces of a span without surrogates. -/
def pieces (first last : Nat) : List (List ByteRange) :=
  match cut? first last with
  | some n =>
    if _h : first < n ∧ n ≤ last then pieces first (n - 1) ++ pieces n last
    else []
  | none => [List.zipWith ByteRange.mk (encode first) (encode last)]
termination_by last - first

/-- The pieces of a span, without the surrogates in it. -/
def byteSequences (s : Span) : List (List ByteRange) :=
  if s.first < 0xE000 && s.last > 0xD7FF then
    (if s.first ≤ 0xD7FF then pieces s.first 0xD7FF else [])
      ++ if 0xE000 ≤ s.last then pieces 0xE000 s.last else []
  else pieces s.first s.last

/-- The pieces of a set. -/
def setSequences (s : CharSet) : List (List ByteRange) :=
  s.spans.flatMap byteSequences

end Overlay.Regex
