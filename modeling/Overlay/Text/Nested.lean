/-
Cutting a text at separators, but not inside quotes or brackets. A quote is
closed by the same quote and nothing else counts inside it; brackets are
counted, and a closing one too many opens a hole in which no separator counts
either, until an opening one fills it.
-/
import Overlay.Text.Cut

namespace Overlay.Text

/-- What is open at a place in a text. -/
structure Nest where
  quote : Option Char := none
  brackets : Int := 0
  deriving DecidableEq, Repr

namespace Nest

/-- Whether nothing is open. -/
def isTop (n : Nest) : Bool := n.quote.isNone && n.brackets == 0

/-- What is open after a character. -/
def step (n : Nest) (c : Char) : Nest :=
  match n.quote with
  | some q => if c == q then { n with quote := none } else n
  | none =>
    if c == '\'' || c == '"' then { n with quote := some c }
    else if c == '[' then { n with brackets := n.brackets + 1 }
    else if c == ']' then { n with brackets := n.brackets - 1 }
    else n

end Nest

/-- Puts a character in front of the first part. -/
def extendFirst (c : Char) : List (List Char) → List (List Char)
  | [] => [[c]]
  | part :: parts => (c :: part) :: parts

/-- The parts of a text between the separators that stand where nothing is
open. An empty separator cuts nothing. -/
def splitTop (sep : List Char) (n : Nest) (cs : List Char) : List (List Char) :=
  match cs with
  | [] => [[]]
  | c :: rest =>
    match if n.isTop then after? sep (c :: rest) else none with
    | some tail =>
      if _h : tail.length < (c :: rest).length then [] :: splitTop sep n tail
      else extendFirst c (splitTop sep (n.step c) rest)
    | none => extendFirst c (splitTop sep (n.step c) rest)
termination_by cs.length
decreasing_by
  · exact _h
  · exact Nat.lt_succ_self _
  · exact Nat.lt_succ_self _

end Overlay.Text
