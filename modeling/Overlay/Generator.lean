/-
Generated values: identifiers, letters, numbers, amounts and dates. A request
with an unknown kind or with parameters that cannot be used gives nothing. It
takes nothing from the stream either, but for requests of identifiers: their
words are drawn before the parameter is looked at.

The range of an amount is looked at for its order only. One that is in order
but too wide for draws is no request that gives nothing: it breaks the stream
off.

Dates are counted from today, which is a parameter wherever a text is made of
them.
-/
import Overlay.Calendar.Stamp
import Overlay.Config.Value
import Overlay.Decimal.Written
import Overlay.Random.Draw

namespace Overlay

open Overlay.Random (Stream)

/-- A generated value. -/
inductive Generated
  | text (value : String)
  /-- The date some days after today, or before it. -/
  | day (fromToday : Int)
  deriving DecidableEq, Repr

/-- The text of a generated value; a date beyond the years that can be told has
none. -/
def Generated.render? (today : Calendar.Date) : Generated → Option String
  | .text s => some s
  | .day n =>
    let date := today.addDays n
    if Calendar.yearInRange date.year then some date.render else none

namespace Generator

open Overlay.Random

-- ===== parameters

/-- A parameter, or a value if there is none; nothing if the parameter is
malformed. -/
def paramOr {α : Type} (read : List Char → Option α) (spec : GeneratorSpec)
    (i : Nat) (missing : α) : Option α :=
  match spec.param? i with
  | some p => read p.toList
  | none => some missing

/-- The greatest number of letters that can be asked for. -/
def maxLetters : Nat := 256

-- ===== identifiers and letters

/-- The bytes of a word, the low one first. -/
def bytesOf (w : UInt32) : List Nat :=
  [w.toNat % 256, w.toNat / 256 % 256, w.toNat / 65536 % 256,
    w.toNat / 16777216]

/-- The bytes of a random identifier: the version in byte 6 and the variant in
byte 8. -/
def markVersion (bytes : List Nat) : List Nat :=
  (bytes.modify 6 fun b => b % 16 + 64).modify 8 fun b => b % 64 + 128

/-- Two hexadecimal digits. -/
def hexByte (b : Nat) : List Char :=
  [Nat.digitChar (b / 16), Nat.digitChar (b % 16)]

/-- An identifier in groups of eight, four, four, four and twelve digits. -/
def identifierText (bytes : List Nat) : String :=
  let digits := bytes.flatMap hexByte
  let group (start size : Nat) : String :=
    String.ofList ((digits.drop start).take size)
  Text.join "-" [group 0 8, group 8 4, group 12 4, group 16 4, group 20 12]

/-- Four words as sixteen bytes. -/
def sixteenBytes : StateM Stream (List Nat) := do
  let a ← word
  let b ← word
  let c ← word
  let d ← word
  return bytesOf a ++ bytesOf b ++ bytesOf c ++ bytesOf d

/-- A random identifier. -/
def identifier : StateM Stream String := do
  return identifierText (markVersion (← sixteenBytes))

/-- Random capital letters. -/
def letters : Nat → StateM Stream (List Char)
  | 0 => pure []
  | n + 1 => do
    let i ← index 26
    let rest ← letters n
    return Char.ofNat (65 + i) :: rest

-- ===== the kinds

/-- The part of an identifier that a parameter asks for: all of it, or its
first group. -/
def identifierPart (part : Option String) (id : String) : Option String :=
  match part with
  | none => some id
  | some "short" => some (String.ofList (id.toList.take 8))
  | some _ => none

/-- An identifier. -/
def uuid (spec : GeneratorSpec) : StateM Stream (Option Generated) := do
  return (identifierPart (spec.param? 0) (← identifier)).map .text

/-- The draw of a value that is made from its parameters, if they can be used.
-/
abbrev Draw := Option (StateM Stream Generated)

/-- Draws a value, or leaves the stream alone. -/
def Draw.run : Draw → StateM Stream (Option Generated)
  | some draw => some <$> draw
  | none => pure none

/-- As many letters as asked for, or six. -/
def alpha (spec : GeneratorSpec) : Draw := do
  let count ← paramOr (Decimal.unsigned? Decimal.wordBound) spec 0 6
  guard (count ≤ maxLetters)
  some do return .text (String.ofList (← letters count))

/-- An integer of a range, by default from 1 to 1000. -/
def number (spec : GeneratorSpec) : Draw := do
  let low ← paramOr Decimal.signed? spec 0 1
  let high ← paramOr Decimal.signed? spec 1 1000
  guard (low ≤ high)
  some do return .text (toString (← integer low high))

/-- The range of an amount, by default from 10 to 1000. -/
def amountRange (spec : GeneratorSpec) :
    Option (Decimal.Binary × Decimal.Binary) := do
  let low ← paramOr Decimal.binary? spec 0 (.nearest false 10 1)
  let high ← paramOr Decimal.binary? spec 1 (.nearest false 1000 1)
  guard (low.isFinite && high.isFinite && low.le high)
  return (low, high)

/-- An amount of a range, with two places. -/
def currency (spec : GeneratorSpec) : Draw := do
  let (low, high) ← amountRange spec
  some do return .text (Decimal.twoPlaces (← real low high))

/-- Today, or a day within a year after it or before it. -/
def date (spec : GeneratorSpec) : Draw :=
  match spec.param? 0 with
  | none => some (pure (.day 0))
  | some "today" => some (pure (.day 0))
  | some "future" => some do return .day (← integer 1 365)
  | some "past" => some do return .day (-(← integer 1 365))
  | some _ => none

/-- The value that a request asks for. -/
def draw (spec : GeneratorSpec) : StateM Stream (Option Generated) :=
  match spec.kind with
  | "uuid" => uuid spec
  | "alpha" => (alpha spec).run
  | "number" => (number spec).run
  | "currency" => (currency spec).run
  | "date" => (date spec).run
  | _ => pure none

end Generator

/-- A source of generated values: a stream, and the same stream at its
beginning. -/
structure ValueSource where
  origin : Stream
  stream : Stream
  deriving Inhabited

namespace ValueSource

/-- The source of a seed. -/
def ofSeed (seed : Nat) : ValueSource := ⟨.ofSeed seed, .ofSeed seed⟩

/-- The source as it was at the beginning. -/
def reset (s : ValueSource) : ValueSource := { s with stream := s.origin }

/-- Generates a value. -/
def generate (spec : GeneratorSpec) :
    StateM ValueSource (Option Generated) := fun s =>
  let (value, stream) := Generator.draw spec s.stream
  (value, { s with stream := stream })

end ValueSource

end Overlay
