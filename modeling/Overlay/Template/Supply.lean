/-
The supply of rows: all templates, and what they have handed out so far. A row
is drawn by the order of its template; looking a row up by its number changes
nothing but the notes about computed fields.
-/
import Overlay.Random.Draw
import Overlay.Template.Computed
import Overlay.Template.Inheritance

namespace Overlay

/-- A template and what it has handed out. -/
structure Template where
  fields : List String
  rows : List Row
  cycle : Cycling
  computed : List Computed
  parent : Option String
  /-- The number of draws that count towards the next row. -/
  cursor : Nat := 0
  /-- The rows that were drawn, each once. -/
  used : List Nat := []
  /-- The number of rows that were drawn. -/
  served : Nat := 0
  deriving Inhabited

/-- A template in a few words. -/
structure TemplateSummary where
  name : String
  fields : List String
  rows : Nat
  cycle : String
  computed : List String
  parent : Option String
  served : Nat
  distinctRowsUsed : Nat
  deriving DecidableEq, Repr, Inhabited

namespace Template

/-- The template as if nothing had been drawn. -/
def rewind (t : Template) : Template :=
  { t with cursor := 0, used := [], served := 0 }

/-- The template of a specification. -/
def ofSpec (spec : TemplateSpec) : Template :=
  { fields := spec.fields
    rows := spec.rows
    cycle := spec.cycle
    computed := spec.computed.map Computed.ofSpec
    parent := spec.parent }

/-- The index of the next row, and the template with its cursor moved on. -/
def advance (t : Template) :
    StateM Random.Stream (Option (Nat × Template)) := do
  let size := t.rows.length
  if size == 0 then return none
  match t.cycle with
  | .random => return some (← Random.index size, t)
  | .once =>
    if t.cursor < size then
      return some (t.cursor, { t with cursor := t.cursor + 1 })
    else return none
  | .sequential =>
    return some (t.cursor % size, { t with cursor := t.cursor + 1 })
  | .infinite =>
    return some (t.cursor % size, { t with cursor := t.cursor + 1 })

/-- The template with a draw of a row counted. -/
def serve (t : Template) (index : Nat) : Template :=
  { t with
    used := if t.used.contains index then t.used else index :: t.used
    served := t.served + 1 }

/-- A row with its computed fields, and notes about them. -/
def completed (name : String) (t : Template) (row : Row) : Row × List Issue :=
  Computed.applyAll name t.computed row

/-- A template in a few words. -/
def summary (name : String) (t : Template) : TemplateSummary :=
  { name := name
    fields := t.fields
    rows := t.rows.length
    cycle := t.cycle.name
    computed := t.computed.map (·.name)
    parent := t.parent
    served := t.served
    distinctRowsUsed := t.used.length }

end Template

/-- All templates, in the order of their names, with the stream that random
draws come from. -/
structure RowSupply where
  templates : Table Template
  /-- The stream at its beginning. -/
  origin : Random.Stream
  stream : Random.Stream
  /-- Notes about computed fields since they were last taken. -/
  issues : List Issue := []
  deriving Inhabited

namespace RowSupply

/-- Takes the resolved template of a specification out, and builds it. A name
is taken once. -/
def take (taken : Table Template × Table TemplateSpec) (spec : TemplateSpec) :
    Table Template × Table TemplateSpec :=
  match Table.find? spec.name taken.2 with
  | none => taken
  | some flat =>
    (Table.insertOrdered spec.name
      { Template.ofSpec flat with parent := spec.parent } taken.1,
      Table.erase spec.name taken.2)

/-- The templates of some specifications, with all that they take over. -/
def templatesOf (specs : List TemplateSpec) :
    Except Failure (Table Template) := do
  let resolved ← (TemplateSpec.resolveAll specs).mapError .circularInheritance
  return (specs.foldl take ([], resolved)).1

/-- The supply of some templates. Templates that extend each other in a circle
are refused. -/
def ofSpecs (specs : List TemplateSpec) (seed : Nat) :
    Except Failure RowSupply := do
  let templates ← templatesOf specs
  return {
    templates := templates, origin := .ofSeed seed,
    stream := .ofSeed seed }

/-- Whether there is a template of that name. -/
def contains (s : RowSupply) (name : String) : Bool :=
  Table.has name s.templates

/-- The names of the templates. -/
def names (s : RowSupply) : List String := Table.names s.templates

/-- The supply with a row completed: notes are kept, the row is answered. -/
def finish (s : RowSupply) (name : String) (t : Template) (row : Row) :
    Row × RowSupply :=
  let (row, noted) := t.completed name row
  (row, { s with issues := s.issues ++ noted })

/-- Draws the next row of a template. -/
def next (name : String) : StateM RowSupply (Option Row) := fun s =>
  match Table.find? name s.templates with
  | none => (none, s)
  | some t =>
    let (drawn, stream) := t.advance s.stream
    let s := { s with stream := stream }
    match drawn with
    | none => (none, s)
    | some (index, moved) =>
      let served := moved.serve index
      let s :=
        { s with templates := Table.insertOrdered name served s.templates }
      match t.rows[index]? with
      | none => (none, s)
      | some row =>
        let (row, s) := s.finish name t row
        (some row, s)

/-- The row with a number, counted from one. -/
def rowAt (name : String) (number : Nat) :
    StateM RowSupply (Option Row) := fun s =>
  match Table.find? name s.templates with
  | none => (none, s)
  | some t =>
    match if number == 0 then none else t.rows[number - 1]? with
    | none => (none, s)
    | some row =>
      let (row, s) := s.finish name t row
      (some row, s)

/-- A field of the next row. -/
def field (name fieldName : String) : StateM RowSupply (Option String) := do
  return (← next name).bind (Table.find? fieldName)

/-- A template as if nothing had been drawn from it. -/
def rewind (name : String) (s : RowSupply) : RowSupply :=
  match Table.find? name s.templates with
  | some t =>
    { s with templates := Table.insertOrdered name t.rewind s.templates }
  | none => s

/-- The supply as it was at the beginning. -/
def reset (s : RowSupply) : RowSupply :=
  { s with
    templates := s.templates.map fun (name, t) => (name, t.rewind)
    stream := s.origin
    issues := [] }

/-- Takes the notes. -/
def takeIssues : StateM RowSupply (List Issue) :=
  fun s => (s.issues, { s with issues := [] })

/-- All templates in a few words. -/
def summary (s : RowSupply) : List TemplateSummary :=
  s.templates.map fun (name, t) => t.summary name

end RowSupply

end Overlay
