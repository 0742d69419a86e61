/-
Reading templates. A template is a list of rows, or an object with rows and
settings. The nested objects of a row are flattened: every value that is no
object becomes a field, named by the keys on the way to it with dots between
them.
-/
import Overlay.Config
import Overlay.Config.Problem

namespace Overlay.Config

open Text

/-- The text of a value in a row: a text as it is, null as an empty text, and
else the value as JSON. -/
def scalarText : Json → String
  | .text s => s
  | .null => ""
  | other => other.compact

/-- The name of a field below others. -/
def dotted (above key : String) : String :=
  if above == "" then key else above ++ "." ++ key

mutual

/-- The values at and below a name that are no objects, in source order. -/
def leavesOf (name : String) : Json → List (String × Json)
  | .object fields => leaves name fields
  | v => [(name, v)]

/-- The values below the fields of an object that are no objects themselves. -/
def leaves (above : String) : List (String × Json) → List (String × Json)
  | [] => []
  | (k, v) :: rest => leavesOf (dotted above k) v ++ leaves above rest

end

/-- The row of an object. -/
def flatten (fields : Json.Fields) : Row :=
  (leaves "" fields).foldl
    (fun row leaf => Table.insertOrdered leaf.1 (scalarText leaf.2) row) []

/-- The names of the fields of an object, in source order. -/
def fieldNames (fields : Json.Fields) : List String :=
  (leaves "" fields).map (·.1)

/-- Notes a problem with a template. -/
def noteTemplate (name : String) (p : TemplateProblem) : Checked Unit :=
  .note (.template name p)

/-- The field of an object under the first of two names that it has. -/
def eitherField (fields : Json.Fields) (first second : String) : Option Json :=
  Table.find? first fields <|> Table.find? second fields

/-- The order in which rows are drawn. -/
def readCycling (name : String) (fields : Json.Fields) : Checked Cycling :=
  match Table.find? "cycle" fields with
  | none => pure .sequential
  | some v =>
    match v.text?.bind Cycling.parse? with
    | some c => pure c
    | none => do noteTemplate name (.unknownCycling v); pure .sequential

/-- The items of a list of texts. -/
def textList? (v : Json) : Option (List String) :=
  v.list?.bind fun items => items.mapM Json.text?

/-- The names of the fields, if they are listed. -/
def readFields (name : String) (fields : Json.Fields) : Checked (List String) :=
  match Table.find? "fields" fields with
  | none => pure []
  | some v =>
    match textList? v with
    | some names => pure names
    | none => do noteTemplate name .fieldsNotTexts; pure []

/-- A computed field: a formula, or an object with a formula and its inputs. -/
def readComputed (template : String) (entry : String × Json) :
    Checked (Option ComputedSpec) :=
  let (name, v) := entry
  match v with
  | .text formula => pure (some ⟨name, formula, []⟩)
  | .object fields =>
    match (Table.find? "formula" fields).bind Json.text? with
    | none => .failed (.template template (.formulaMissing name))
    | some formula =>
      let inputs := ((Table.find? "inputs" fields).bind Json.list?).getD []
      pure (some ⟨name, formula, inputs.filterMap Json.text?⟩)
  | other => .failed (.template template (.formulaNotText name other))

/-- The computed fields. -/
def readComputedFields (name : String) (fields : Json.Fields) :
    Checked (List ComputedSpec) :=
  match Table.find? "computed" fields with
  | none => pure []
  | some (.object entries) => .collect (readComputed name) entries
  | some _ => do noteTemplate name .computedNotObject; pure []

/-- The template that is extended. -/
def readParent (name : String) (fields : Json.Fields) :
    Checked (Option String) :=
  match eitherField fields "inheritance" "extends" with
  | none => pure none
  | some (.text parent) =>
    if isBlankText parent then
      .failed (.template name (.parentNotName (.text parent)))
    else pure (some (trim parent))
  | some other => .failed (.template name (.parentNotName other))

/-- A row, with its number. -/
def readRow (name : String) (row : Json × Nat) : Checked (Option Row) :=
  match row.1 with
  | .object fields => pure (some (flatten fields))
  | other => .failed (.template name (.rowNotObject (row.2 + 1) other))

/-- The rows of a template, and the fields of the first one. -/
def readRows (name : String) (data : Option Json) :
    Checked (List Row × List String) :=
  match data with
  | none => pure ([], [])
  | some (.list items) => do
    let rows ← Checked.collect (readRow name) items.zipIdx
    return (rows, ((items.head?.bind Json.object?).map fieldNames).getD [])
  | some other => do noteTemplate name (.dataNotList other); pure ([], [])

/-- The settings of a template without its rows, and the rows as they are
written. -/
def readTemplateSettings (name : String) (v : Json) :
    Checked (Option (TemplateSpec × Option Json)) :=
  match v with
  | .list items => pure (some ({ name := name }, some (.list items)))
  | .object fields => do
    let cycle ← readCycling name fields
    let names ← readFields name fields
    let computed ← readComputedFields name fields
    let parent ← readParent name fields
    let spec : TemplateSpec :=
      { name := name, fields := names, cycle := cycle, computed := computed,
        parent := parent }
    return some (spec, eitherField fields "data" "rows")
  | other => .failed (.template name (.notATemplate other))

/-- Reads a template. A template with problems is kept, so that it counts as
declared. -/
def readTemplate (entry : String × Json) : Checked (Option TemplateSpec) := do
  let (name, v) := entry
  match ← readTemplateSettings name v with
  | none => return none
  | some (spec, data) =>
    let (rows, firstFields) ← readRows name data
    if rows.isEmpty && spec.parent.isNone then noteTemplate name .noRows
    return some { spec with
      rows := rows
      fields := if spec.fields.isEmpty then firstFields else spec.fields }

end Overlay.Config
