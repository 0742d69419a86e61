/-
Reports in JSON: what the commands tell about generations, checked files,
addresses and templates. Every report names the version of its form first,
unless it is part of another one.
-/
import Overlay.Address.Printer
import Overlay.Address.Reader
import Overlay.Config.Check
import Overlay.Generation

namespace Overlay.Report

/-- The version of the forms of the reports. -/
def version : Nat := 1

/-- A natural number. -/
def count (n : Nat) : Json := .integer n

/-- A list of texts. -/
def texts (items : List String) : Json := .list (items.map .text)

/-- Texts by their names. -/
def textTable (t : Table String) : Json :=
  .object (t.map fun (name, text) => (name, .text text))

/-- Numbers by their names. -/
def countTable (t : Table Nat) : Json :=
  .object (t.map fun (name, n) => (name, count n))

/-- What may be missing. -/
def optional {α : Type} (form : α → Json) : Option α → Json
  | some value => form value
  | none => .null

-- ===== generations

/-- The report on a generation that took some milliseconds. -/
def ofGeneration (r : GenerationReport) (elapsed : Nat) : Json :=
  .object
    [("schema_version", count version),
      ("generation_type", .text r.kind.name),
      ("mode", .text r.mode.name),
      ("elapsed_ms", count elapsed),
      ("fallback_used", .bool r.isFallback),
      ("applied", texts r.applied),
      ("skipped", texts r.skipped),
      ("errors", texts r.errors),
      ("choices_used", textTable r.choicesUsed),
      ("repeats_used", countTable r.repeatsUsed)]

-- ===== checked files

/-- How many entries a configuration has. -/
def ofCounts (c : SectionCounts) : Json :=
  .object
    [("values", count c.values),
      ("patterns", count c.patterns),
      ("choices", count c.choices),
      ("templates", count c.templates),
      ("repeats", count c.repeats),
      ("attributes", count c.attributes),
      ("namespace_rules", count c.prefixRules)]

/-- The report on a file. -/
def ofCheck (c : ConfigCheck) : Json :=
  .object
    [("path", .text c.path),
      ("valid", .bool c.isValid),
      ("schema", optional (fun k => .text k.schema) c.config),
      ("mode", optional (fun k => .text k.mode.name) c.config),
      ("counts", optional (fun k => ofCounts k.counts) c.config),
      ("errors", texts c.problems),
      ("warnings", texts c.remarks)]

/-- The report on all files of a check. -/
def ofChecks (checks : List ConfigCheck) : Json :=
  .object
    [("schema_version", count version),
      ("checked", count checks.length),
      ("files", .list (checks.map ofCheck))]

-- ===== addresses

/-- The report on a text that should be an address. -/
def ofAddress (text : String) : Json :=
  match Address.parse text with
  | .ok a =>
    .object
      [("input", .text text),
        ("valid", .bool true),
        ("kind", .text a.kind.name),
        ("normalized", .text a.normalize),
        ("precedence", count a.precedence.toNat),
        ("error", .null)]
  | .error why =>
    .object
      [("input", .text text),
        ("valid", .bool false),
        ("kind", .null),
        ("normalized", .null),
        ("precedence", .null),
        ("error", .text why.message)]

-- ===== templates

/-- The report on the rows that a template hands out. -/
def ofRows (name : String) (rows : List Row) : Json :=
  .object
    [("schema_version", count version),
      ("template", .text name),
      ("rows", .list (rows.map textTable))]

end Overlay.Report
