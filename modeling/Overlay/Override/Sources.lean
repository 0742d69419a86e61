/-
Where the texts of configured values come from: literals from themselves,
generated values from a stream, rows from templates.

Within a pass, rows are shared: whichever references to a template there are,
and in whatever order they are looked up, the element with number `k` among
those of an entry reads the row with number `k` of those drawn since the pass
began. A row that is pinned by its number is never drawn.
-/
import Overlay.Generator
import Overlay.Json.Printer
import Overlay.Template.Supply

namespace Overlay

/-- The text that a reference takes from a row: a field, or the whole row as a
JSON object. -/
def RowRef.textOf (r : RowRef) (row : Row) : Option String :=
  match r.field with
  | some name => Table.find? name row
  | none =>
    some (Json.object (row.map fun (name, text) => (name, .text text))).compact

/-- The sources of values. -/
structure Sources where
  /-- The day from which dates are counted. -/
  today : Calendar.Date
  rows : RowSupply
  values : ValueSource
  /-- The rows drawn from each template in this pass, in the order of the
  draws. -/
  drawn : Table (List Row) := []
  deriving Inhabited

namespace Sources

/-- The sources for some templates. -/
def ofSpecs (specs : List TemplateSpec) (seed : Nat) (today : Calendar.Date) :
    Except Failure Sources := do
  let rows ← RowSupply.ofSpecs specs seed
  return { today := today, rows := rows, values := .ofSeed seed }

/-- The sources as they were at the beginning. -/
def reset (s : Sources) : Sources :=
  { s with rows := s.rows.reset, values := s.values.reset }

/-- The sources at the beginning of a pass: no row has been drawn in it yet. -/
def beginPass (s : Sources) : Sources := { s with drawn := [] }

/-- A generated text. -/
def generate (spec : GeneratorSpec) : StateM Sources (Option String) := fun s =>
  let (value, values) := ValueSource.generate spec s.values
  (value.bind (·.render? s.today), { s with values := values })

-- ===== rows

/-- The row that a reference pins. -/
def pinnedRow (r : RowRef) (number : Nat) :
    StateM Sources (Option Row) := fun s =>
  let (row, rows) := RowSupply.rowAt r.template number s.rows
  (row, { s with rows := rows })

/-- The row of a reference, newly drawn unless it is pinned. -/
def freshRow (r : RowRef) : StateM Sources (Option Row) :=
  match r.row with
  | some number => pinnedRow r number
  | none => fun s =>
    let (row, rows) := RowSupply.next r.template s.rows
    (row, { s with rows := rows })

/-- Draws up to `count` rows, fewer if the template has no more. -/
def drawRows (template : String) : (count : Nat) → StateM RowSupply (List Row)
  | 0 => pure []
  | count + 1 => do
    match ← RowSupply.next template with
    | none => return []
    | some row => return row :: (← drawRows template count)

/-- The rows drawn from a template in this pass. -/
def drawnFrom (s : Sources) (template : String) : List Row :=
  (Table.find? template s.drawn).getD []

/-- The row with a number, counted from zero, of those drawn from a template in
this pass. What is missing up to it is drawn now. -/
def drawnRow (template : String) (k : Nat) :
    StateM Sources (Option Row) := fun s =>
  let before := s.drawnFrom template
  let (added, rows) := drawRows template (k + 1 - before.length) s.rows
  let after := before ++ added
  (after[k]?,
    { s with rows := rows, drawn := Table.insert template after s.drawn })

/-- The row of a reference for the element with a number, counted from zero. -/
def sharedRow (r : RowRef) (k : Nat) : StateM Sources (Option Row) :=
  match r.row with
  | some number => pinnedRow r number
  | none => drawnRow r.template k

-- ===== texts

/-- The text of a value, where `row` finds the row of a reference. -/
def textBy (row : RowRef → StateM Sources (Option Row)) :
    ValueSpec → StateM Sources (Option String)
  | .literal text => pure (some text)
  | .generated spec => generate spec
  | .templated r => do return (← row r).bind r.textOf

/-- The text of a value on its own. -/
def text? : ValueSpec → StateM Sources (Option String) := textBy freshRow

/-- The text of a value for the element with a number. -/
def textFor? (value : ValueSpec) (k : Nat) : StateM Sources (Option String) :=
  textBy (sharedRow · k) value

/-- The text of a value on its own, or the value as it was written if it has
none. -/
def text (value : ValueSpec) : StateM Sources String := do
  return (← text? value).getD value.raw

end Sources

end Overlay
