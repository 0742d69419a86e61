/-
Reviewing templates without drawing from them: rows that lack a field of their
template, and computed fields that read what no row, no field and no computed
field before them provides.
-/
import Overlay.Template.Supply

namespace Overlay

/-- A remark about a template. -/
inductive TemplateRemark
  | lacksField (template : String) (row : Nat) (field : String)
  | readsUnknown (template computed input : String)
  deriving DecidableEq, Repr

/-- The text of a remark. -/
def TemplateRemark.message : TemplateRemark → String
  | .lacksField template row field =>
    "template '" ++ template ++ "' row " ++ toString row ++ " lacks field '"
      ++ field ++ "'"
  | .readsUnknown template computed input =>
    "template '" ++ template ++ "' computed field '" ++ computed
      ++ "' reads unknown field '"
      ++ input ++ "'"

namespace Template

/-- Remarks about the rows of a template. -/
def reviewRows (name : String) (t : Template) : List TemplateRemark :=
  t.rows.zipIdx.flatMap fun (row, i) =>
    (t.fields.filter (!Table.has · row)).map (.lacksField name (i + 1))

/-- The inputs of a computed field that have to be known. A plain lookup may
miss. -/
def requiredInputs (c : Computed) : List String :=
  match c.inputs, c.formula with
  | [], .lookup _ => []
  | [], formula => formula.inputs
  | inputs, _ => inputs

/-- Remarks about computed fields, where `known` are the fields that are there
before them. -/
def reviewComputed (name : String) (known : List String) :
    List Computed → List TemplateRemark
  | [] => []
  | c :: rest =>
    ((requiredInputs c).filter (!known.contains ·)).map
      (.readsUnknown name c.name)
      ++ reviewComputed name (c.name :: known) rest

/-- Remarks about a template. -/
def review (name : String) (t : Template) : List TemplateRemark :=
  t.reviewRows name
    ++ reviewComputed name (t.fields ++ t.rows.flatMap Table.names) t.computed

end Template

/-- Remarks about all templates. -/
def RowSupply.review (s : RowSupply) : List TemplateRemark :=
  s.templates.flatMap fun (name, t) => t.review name

end Overlay
