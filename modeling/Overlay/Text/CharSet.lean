/-
Sets of characters as spans of code points. The spans stand in order, with a
code point between each and the next, so a set has one form and its size can be
read off.

The surrogates are no characters. A span may run across them; where a set ends
or begins beside them, the code point after U+D7FF is U+E000.
-/
import Overlay.Text.CharClass
import Overlay.Text.Category.Fold

namespace Overlay.Text

open Category

/-- The code points from `first` to `last`. -/
structure Span where
  first : Nat
  last : Nat
  deriving DecidableEq, Repr, Inhabited

/-- Membership in a span. -/
def Span.has (s : Span) (n : Nat) : Bool := s.first ≤ n && n ≤ s.last

/-- The last code point. -/
def lastCode : Nat := 0x10FFFF

/-- The code point of the character after one. -/
def codeAfter (n : Nat) : Nat := if n == 0xD7FF then 0xE000 else n + 1

/-- The code point of the character before one. -/
def codeBefore (n : Nat) : Nat := if n == 0xE000 then 0xD7FF else n - 1

/-- A set of characters. -/
structure CharSet where
  spans : List Span
  deriving DecidableEq, Repr, Inhabited

namespace CharSet

-- ===== spans

/-- Puts a span on top of a stack of spans that begin before it, as one with
the top if they touch. -/
def join : List Span → Span → List Span
  | top :: below, s =>
    if s.first ≤ top.last + 1 then ⟨top.first, Nat.max top.last s.last⟩ :: below
    else s :: top :: below
  | [], s => [s]

/-- The set of all code points of some spans. -/
def ofSpans (spans : List Span) : CharSet :=
  ⟨((spans.mergeSort fun a b => a.first ≤ b.first).foldl join []).reverse⟩

/-- What two ordered lists of spans have in common. -/
def meet : List Span → List Span → List Span
  | [], _ => []
  | _, [] => []
  | a :: as, b :: bs =>
    let first := Nat.max a.first b.first
    let last := Nat.min a.last b.last
    let rest := if a.last < b.last then meet as (b :: bs) else meet (a :: as) bs
    if first ≤ last then ⟨first, last⟩ :: rest else rest
termination_by as bs => as.length + bs.length

/-- What the first of two ordered lists of spans has alone. -/
def remove : List Span → List Span → List Span
  | [], _ => []
  | as, [] => as
  | a :: as, b :: bs =>
    if b.last < a.first then remove (a :: as) bs
    else if a.last < b.first then a :: remove as (b :: bs)
    else
      let before :=
        if a.first < b.first then [⟨a.first, codeBefore b.first⟩] else []
      let rest :=
        if b.last < a.last then remove (⟨codeAfter b.last, a.last⟩ :: as) bs
        else remove as (b :: bs)
      before ++ rest
termination_by as bs => as.length + bs.length

/-- The span between two code points, whichever comes first. -/
def spanOf (a b : Nat) : Span := if a ≤ b then ⟨a, b⟩ else ⟨b, a⟩

/-- The spans behind each of some ordered spans. Behind U+D7FF and before
U+E000 there is no character; a gap there is taken to be these two. -/
def gaps : List Span → List Span
  | a :: b :: rest =>
    spanOf (codeAfter a.last) (codeBefore b.first) :: gaps (b :: rest)
  | [a] => if a.last < lastCode then [⟨codeAfter a.last, lastCode⟩] else []
  | [] => []

-- ===== sets

/-- The set of no character. -/
def none : CharSet := ⟨[]⟩

/-- The set of all characters. -/
def all : CharSet := ⟨[⟨0, lastCode⟩]⟩

/-- The characters between two code points, both included. -/
def range (first last : Nat) : CharSet :=
  if first ≤ last then ⟨[⟨first, last⟩]⟩ else none

/-- One character. -/
def single (c : Char) : CharSet := range c.toNat c.toNat

/-- Some code points. -/
def ofCodes (codes : List Nat) : CharSet := ofSpans (codes.map fun n => ⟨n, n⟩)

/-- The code points of a run, as spans. -/
def spansOf (r : Run) : List Span :=
  if r.stride == 1 then [⟨r.first, r.last⟩]
  else (List.range ((r.last - r.first) / r.stride + 1)).map fun k =>
    let n := r.first + k * r.stride
    ⟨n, n⟩

/-- The code points of a table. -/
def ofRuns (table : List Run) : CharSet := ofSpans (table.flatMap spansOf)

/-- The ASCII characters of a class. -/
def ofAscii (holds : Char → Bool) : CharSet :=
  ofCodes ((List.range 128).filter fun n => holds (Char.ofNat n))

/-- Membership of a code point. -/
def hasCode (s : CharSet) (n : Nat) : Bool := s.spans.any (·.has n)

/-- Membership. -/
def has (s : CharSet) (c : Char) : Bool := s.hasCode c.toNat

instance : Union CharSet := ⟨fun a b => ofSpans (a.spans ++ b.spans)⟩

instance : Inter CharSet := ⟨fun a b => ⟨meet a.spans b.spans⟩⟩

instance : SDiff CharSet := ⟨fun a b => ⟨remove a.spans b.spans⟩⟩

/-- The characters of one set but not of both. -/
def symDiff (a b : CharSet) : CharSet := (a ∪ b) \ (a ∩ b)

/-- The union of some sets. -/
def unions (sets : List CharSet) : CharSet := ofSpans (sets.flatMap (·.spans))

/-- All characters that a set does not have. -/
def compl (s : CharSet) : CharSet :=
  match s.spans with
  | [] => all
  | a :: rest =>
    ⟨(if 0 < a.first then [⟨0, codeBefore a.first⟩] else [])
      ++ gaps (a :: rest)⟩

/-- Whether all characters of a set are ASCII. -/
def isAscii (s : CharSet) : Bool := s.spans.all (·.last < 0x80)

/-- The only character of a set that has one. -/
def only? (s : CharSet) : Option Char :=
  match s.spans with
  | [t] => if t.first == t.last then some (Char.ofNat t.first) else Option.none
  | _ => Option.none

-- ===== case

/-- Every code point that folds to another one, with that one. -/
def foldPairs : List (Nat × Nat) :=
  (List.range 26).map (fun k => (0x41 + k, 0x61 + k)) ++
    foldRuns.flatMap fun r => (spansOf r.run).flatMap fun s =>
      (List.range (s.last - s.first + 1)).map fun k =>
        (s.first + k, (((s.first + k : Nat) : Int) + r.shift).toNat)

/-- A set with all characters that differ from a member by case only. -/
def folded (s : CharSet) : CharSet :=
  let images :=
    foldPairs.filterMap fun p => if s.hasCode p.1 then some p.2 else Option.none
  let t := s ∪ ofCodes images
  t ∪ ofCodes (foldPairs.filterMap fun p => if t.hasCode p.2 then some p.1
    else Option.none)

/-- A set with all ASCII letters that differ from a member by case only. -/
def foldedAscii (s : CharSet) : CharSet :=
  s ∪ ofAscii fun c =>
    s.has (asciiLower c)
      || ('a' ≤ c && c ≤ 'z' && s.has (Char.ofNat (c.toNat - 32)))

end CharSet

end Overlay.Text
