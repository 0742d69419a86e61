/-
Configured values. A value is a literal text, or asks for a generated text
(`generate:kind:param…`), or for a row of a template or a field of such a row
(`@template[2].field`). What is neither of the two is a literal, near misses
included.
-/
import Overlay.Text.Cut
import Overlay.Decimal.Read

namespace Overlay

open Text

/-- A request for a generated text. -/
structure GeneratorSpec where
  /-- The request as it was written. -/
  raw : String
  kind : String
  params : List String
  deriving DecidableEq, Repr, Inhabited

/-- The parameter with a number, counted from zero; an empty one counts as
missing. -/
def GeneratorSpec.param? (g : GeneratorSpec) (i : Nat) : Option String :=
  g.params[i]?.filter (· != "")

/-- A request for a row of a template. -/
structure RowRef where
  /-- The request as it was written. -/
  raw : String
  template : String
  /-- The number of the row, counted from one; without it the next row is
  drawn. -/
  row : Option Nat
  /-- The field; without it the whole row is meant. -/
  field : Option String
  deriving DecidableEq, Repr, Inhabited

/-- A configured value. -/
inductive ValueSpec
  | literal (text : String)
  | generated (spec : GeneratorSpec)
  | templated (ref : RowRef)
  deriving DecidableEq, Repr, Inhabited

namespace ValueSpec

/-- A character of the name of a template. -/
def isRefChar (c : Char) : Bool := isWord c || c == '-'

/-- The parts after `generate:`; the first one is the kind. -/
def readGenerator (raw : String) : Option GeneratorSpec := do
  let rest ← after? "generate:".toList raw.toList
  match (splitOn ':' rest).map fun part => String.ofList (trimList part) with
  | [] => none
  | kind :: params =>
    if kind == "" then none else some ⟨raw, lowerAscii kind, params⟩

/-- The digits of a row in brackets, if there are brackets, and the text after
them. -/
def splitRow (cs : List Char) : Option (Option (List Char) × List Char) :=
  match cs with
  | '[' :: rest =>
    let digits := rest.takeWhile isDigit
    match digits, rest.drop digits.length with
    | _ :: _, ']' :: rest => some (some digits, rest)
    | _, _ => none
  | cs => some (none, cs)

/-- The field after a dot, if there is one. -/
def splitField (cs : List Char) : Option (Option String) :=
  match cs with
  | [] => some none
  | '.' :: name =>
    if !name.isEmpty && name.all (fun c => isRefChar c || c == '.') then
      some (some (String.ofList name))
    else none
  | _ => none

/-- A request for a row. A row number of zero, or one that is not a word of
ASCII digits, pins no row. -/
def readRef (raw : String) : Option RowRef :=
  match raw.toList with
  | '@' :: rest => do
    let name := rest.takeWhile isRefChar
    guard (!name.isEmpty)
    let (digits, rest) ← splitRow (rest.drop name.length)
    let field ← splitField rest
    let row :=
      (digits.bind (Decimal.unsigned? Decimal.wordBound)).filter (· > 0)
    some ⟨raw, String.ofList name, row, field⟩
  | _ => none

/-- Classifies a value. -/
def parse (raw : String) : ValueSpec :=
  match readGenerator raw with
  | some g => .generated g
  | none =>
    match readRef raw with
    | some r => .templated r
    | none => .literal raw

/-- The value as it was written. -/
def raw : ValueSpec → String
  | .literal text => text
  | .generated g => g.raw
  | .templated r => r.raw

/-- Whether the value asks for a row. -/
def isTemplate : ValueSpec → Bool
  | .templated _ => true
  | _ => false

end ValueSpec

end Overlay
