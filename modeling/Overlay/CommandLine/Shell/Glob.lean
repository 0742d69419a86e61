/-
Patterns of a shell: a star for any characters, a question mark for one, and
brackets for one of some. What is quoted stands for itself.
-/
import Overlay.Text.Cut

namespace Overlay.CommandLine.Shell

open Text

/-- A character of a pattern, and whether it is quoted. -/
abbrev MarkedChar := Char × Bool

/-- A part of a pattern. -/
inductive GlobPart
  | many
  | one
  | char (c : Char)
  /-- A character in one of some ranges, or in none of them. -/
  | among (within : Bool) (ranges : List (Char × Char))

/-- Whether a part stands for a character. -/
def GlobPart.has (c : Char) : GlobPart → Bool
  | .many => false
  | .one => true
  | .char d => c == d
  | .among within ranges => (ranges.any fun (a, b) => a ≤ c && c ≤ b) == within

/-- The ranges before the closing bracket, which does not close at once. -/
def globRanges : (fuel : Nat) → (first : Bool) → List MarkedChar →
    Option (List (Char × Char) × List MarkedChar)
  | 0, _, _ => none
  | _, _, [] => none
  | fuel + 1, first, (c, quoted) :: rest =>
    if c == ']' && !quoted && !first then some ([], rest)
    else
      let (last, rest) := match rest with
        | ('-', false) :: (d, marked) :: more =>
          if d == ']' && !marked then (c, rest) else (d, more)
        | rest => (c, rest)
      (globRanges fuel false rest).map fun (ranges, rest) =>
        ((c, last) :: ranges, rest)

/-- The parts of a pattern. -/
def globParts : (fuel : Nat) → List MarkedChar → List GlobPart
  | 0, _ => []
  | _, [] => []
  | fuel + 1, (c, quoted) :: rest =>
    if quoted then .char c :: globParts fuel rest
    else if c == '*' then .many :: globParts fuel rest
    else if c == '?' then .one :: globParts fuel rest
    else if c == '[' then
      let (within, inner) := match rest with
        | ('!', false) :: inner => (false, inner)
        | inner => (true, inner)
      match globRanges (inner.length + 1) true inner with
      | some (ranges, rest) => .among within ranges :: globParts fuel rest
      | none => .char c :: globParts fuel rest
    else .char c :: globParts fuel rest

/-- Whether some parts match a whole text. -/
def matchesParts : List GlobPart → List Char → Bool
  | [], cs => cs.isEmpty
  | .many :: ps, [] => matchesParts ps []
  | .many :: ps, c :: cs =>
    matchesParts ps (c :: cs) || matchesParts (.many :: ps) cs
  | _ :: _, [] => false
  | p :: ps, c :: cs => p.has c && matchesParts ps cs
termination_by ps cs => ps.length + cs.length

/-- Whether a pattern matches a whole text. -/
def globMatches (pattern : List MarkedChar) (cs : List Char) : Bool :=
  matchesParts (globParts (pattern.length + 1) pattern) cs

/-- A text without the shortest or longest match at one of its ends. -/
def globCut (atEnd longest : Bool) (pattern : List MarkedChar)
    (cs : List Char) : List Char :=
  let lengths := List.range (cs.length + 1)
  let lengths := if longest then lengths.reverse else lengths
  let part (n : Nat) : List Char :=
    if atEnd then cs.drop (cs.length - n) else cs.take n
  match lengths.find? fun n => globMatches pattern (part n) with
  | some n => if atEnd then cs.take (cs.length - n) else cs.drop n
  | none => cs

end Overlay.CommandLine.Shell
