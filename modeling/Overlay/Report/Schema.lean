/-
The forms of the reports, as JSON Schemas. A form lists the fields of a report
with their shapes; the schema names them in alphabetical order, and requires
those that are never null.
-/
import Overlay.Report

namespace Overlay.Report

/-- The shape of a value that is never null. -/
inductive Shape
  | text
  | flag
  /-- A natural number of some width. -/
  | count (width : String)
  | list (items : Shape)
  /-- Values by their names. -/
  | table (values : Shape)
  /-- A shape that is defined under a name. -/
  | defined (name : String)

/-- A field of a report. -/
structure FieldForm where
  name : String
  shape : Shape
  /-- Whether the field may be null. -/
  nullable : Bool := false
  about : Option String := none

/-- A definition that fields refer to. -/
inductive Definition
  | record (fields : List FieldForm)
  /-- One of a few words, each with what it says. -/
  | words (cases : List (String × String))

/-- The form of a report. -/
structure Form where
  /-- The name of the file that holds the schema, without its ending. -/
  stem : String
  title : String
  about : Option String := none
  fields : List FieldForm
  definitions : Table Definition := []

-- ===== the schemas

/-- The word for a shape without parts, and what else is said about it. -/
def Shape.word? : Shape → Option (String × Json.Fields)
  | .text => some ("string", [])
  | .flag => some ("boolean", [])
  | .count width =>
    some ("integer", [("format", .text width), ("minimum", .real 0.0)])
  | _ => none

/-- What a shape says. -/
def Shape.fields : Shape → Json.Fields
  | .list items => [("type", .text "array"), ("items", .object items.fields)]
  | .table values =>
    [("type", .text "object"), ("additionalProperties", .object values.fields)]
  | .defined name => [("$ref", .text ("#/definitions/" ++ name))]
  | s =>
    match s.word? with
    | some (word, more) => ("type", .text word) :: more
    | none => []

/-- What is said about a value that has a shape or is null. -/
def Shape.nullableFields (s : Shape) : Json.Fields :=
  match s.word? with
  | some (word, more) => ("type", .list [.text word, .text "null"]) :: more
  | none =>
    [("anyOf", .list [.object s.fields, .object [("type", .text "null")]])]

/-- The description, if there is one. -/
def described (about : Option String) : Json.Fields :=
  match about with
  | some text => [("description", .text text)]
  | none => []

/-- The schema of a field. -/
def FieldForm.schema (f : FieldForm) : Json :=
  .object (described f.about ++ if f.nullable then f.shape.nullableFields
    else f.shape.fields)

/-- Entries in the order of their names. -/
def byName {α : Type} (entries : List (String × α)) : Table α :=
  entries.foldl (fun t (name, value) => Table.insertOrdered name value t) []

/-- What is said about a record. -/
def recordFields (fields : List FieldForm) : Json.Fields :=
  let named := byName (fields.map fun f => (f.name, f))
  [("type", .text "object"),
    ("required", texts ((named.filter fun (_, f) => !f.nullable).map (·.1))),
    ("properties", .object (named.map fun (name, f) => (name, f.schema)))]

/-- The schema of a definition. -/
def Definition.schema : Definition → Json
  | .record fields => .object (recordFields fields)
  | .words cases =>
    .object [("oneOf", .list (cases.map fun (word, about) =>
      .object
        [("description", .text about), ("type", .text "string"),
          ("enum", texts [word])]))]

/-- The schema of a form. -/
def Form.schema (f : Form) : Json :=
  .object
    ([("$schema", .text "http://json-schema.org/draft-07/schema#"),
      ("title", .text f.title)]
      ++ described f.about
      ++ recordFields f.fields
      ++ if f.definitions.isEmpty then []
        else [("definitions",
          .object ((byName f.definitions).map fun (name, d) =>
            (name, d.schema)))])

-- ===== the forms

/-- The field that names the version of a form. -/
def versionField : FieldForm :=
  { name := "schema_version", shape := .count "uint32" }

/-- A field of texts. -/
def textsField (name : String) (about : Option String := none) : FieldForm :=
  { name := name, shape := .list .text, about := about }

/-- A field for a number of things. -/
def sizeField (name : String) (about : Option String := none) : FieldForm :=
  { name := name, shape := .count "uint", about := about }

/-- A text that may be null. -/
def nullableText (name : String) : FieldForm :=
  { name := name, shape := .text, nullable := true }

/-- The form of the report on a generation. -/
def generationForm : Form :=
  { stem := "generation_metadata"
    title := "GenerationMetadata"
    about := some "Everything a caller needs to judge one generation run."
    fields :=
      [versionField,
        { name := "generation_type", shape := .defined "GenerationType" },
        { name := "mode", shape := .text },
        { name := "elapsed_ms", shape := .count "uint64" },
        { name := "fallback_used", shape := .flag },
        textsField "applied"
          (some "Applied override descriptions, in application order."),
        textsField "skipped"
          (some "Overrides that matched nothing or were shadowed."),
        textsField "errors"
          (some "Non-fatal errors, in the order they happened."),
        { name := "choices_used", shape := .table .text },
        { name := "repeats_used", shape := .table (.count "uint32") }]
    definitions :=
      [("GenerationType", .words
        [(GenerationKind.enhanced.name, "Baseline plus overrides."),
          (GenerationKind.base.name, "Baseline only.")])] }

/-- The form of the report on a check. -/
def checkForm : Form :=
  { stem := "config_check_report"
    title := "ConfigCheckReport"
    fields :=
      [versionField, sizeField "checked",
        { name := "files", shape := .list (.defined "ConfigCheckFile") }]
    definitions :=
      [("ConfigCheckFile", .record
        [{ name := "path", shape := .text },
          { name := "valid", shape := .flag },
          nullableText "schema",
          nullableText "mode",
          { name := "counts", shape := .defined "SectionCounts",
            nullable := true },
          textsField "errors",
          textsField "warnings"
            (some "Template consistency notes; never fatal.")]),
        ("SectionCounts", .record
          (["values", "patterns", "choices", "templates", "repeats",
            "attributes",
            "namespace_rules"].map fun name => sizeField name))] }

/-- The form of the report on an address. -/
def addressForm : Form :=
  { stem := "path_report"
    title := "PathReport"
    fields :=
      [{ name := "input", shape := .text },
        { name := "valid", shape := .flag },
        nullableText "kind",
        nullableText "normalized",
        { name := "precedence", shape := .count "uint32", nullable := true },
        nullableText "error"] }

/-- The form of the report on the rows of a template. -/
def rowsForm : Form :=
  { stem := "template_preview"
    title := "TemplatePreview"
    fields :=
      [versionField,
        { name := "template", shape := .text },
        { name := "rows", shape := .list (.table .text) }] }

/-- The form of a template in a few words. -/
def summaryForm : Form :=
  { stem := "template_summary"
    title := "TemplateSummary"
    fields :=
      [{ name := "name", shape := .text },
        textsField "fields",
        sizeField "rows",
        { name := "cycle", shape := .text },
        textsField "computed",
        nullableText "parent",
        sizeField "served" (some "Rows handed out since the last reset."),
        sizeField "distinct_rows_used"] }

/-- All forms. -/
def forms : List Form :=
  [generationForm, checkForm, addressForm, rowsForm, summaryForm]

end Overlay.Report
