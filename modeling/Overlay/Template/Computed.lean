/-
Computed fields of rows. They are computed one after the other, each from the
row as the ones before have left it. A field that lacks an input, or whose
formula has no value, is left as it is; what went wrong is noted, but for a
plain lookup of a field that is missing.
-/
import Overlay.Failure
import Overlay.Template.Formula

namespace Overlay

open Text

/-- A computed field. -/
structure Computed where
  name : String
  formula : Formula
  /-- The fields that must be in the row. -/
  inputs : List String
  deriving Inhabited

namespace Computed

/-- A computed field with its formula read. -/
def ofSpec (spec : ComputedSpec) : Computed :=
  ⟨spec.name, .parse spec.formula, spec.inputs⟩

/-- The note that a field has no value. -/
def failure (template : String) (c : Computed) (message : String) : Issue :=
  ⟨.computationFailure, template ++ "." ++ c.name, message⟩

/-- The row with one field computed, and a note if that failed. -/
def apply (template : String) (c : Computed) (row : Row) : Row × List Issue :=
  match c.inputs.find? (!Table.has · row) with
  | some missing =>
    (row, [c.failure template
      ("declared input '" ++ missing ++ "' is missing")])
  | none =>
    match c.formula.eval row with
    | .ok (some v) => (Table.insertOrdered c.name v row, [])
    | .ok none => (row, [])
    | .error fault => (row, [c.failure template fault.message])

/-- The row with all fields computed, and the notes in order. -/
def applyAll (template : String) : List Computed → Row → Row × List Issue
  | [], row => (row, [])
  | c :: rest, row =>
    let (row, noted) := c.apply template row
    let (row, more) := applyAll template rest row
    (row, noted ++ more)

end Computed

end Overlay
