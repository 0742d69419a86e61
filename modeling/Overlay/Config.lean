/-
Configurations: which values go to which addresses, how templates, choices and
namespaces are set up. Entries keep the order in which they are written, for
the order decides between entries of the same weight.
-/
import Overlay.Table
import Overlay.Config.Mode
import Overlay.Config.Selector
import Overlay.Config.Value

namespace Overlay

-- ===== templates

/-- A row of data: texts under the names of their fields, in the order of the
names. -/
abbrev Row := Table String

/-- A field that is computed from the other fields of a row. -/
structure ComputedSpec where
  name : String
  formula : String
  /-- The fields that must be in the row; if none are listed, those in the
  formula. -/
  inputs : List String
  deriving DecidableEq, Repr, Inhabited

/-- A template: rows of data, and how they are drawn and completed. -/
structure TemplateSpec where
  name : String
  fields : List String := []
  rows : List Row := []
  cycle : Cycling := .sequential
  computed : List ComputedSpec := []
  /-- The template that this one extends. -/
  parent : Option String := none
  deriving DecidableEq, Repr, Inhabited

-- ===== choices

/-- A condition and the option that is chosen if it holds. -/
structure ConditionRule where
  test : String
  choose : String
  deriving DecidableEq, Repr

/-- How an option is chosen. -/
inductive ChoiceSpec
  | fixed (option : String)
  /-- By the first rule that holds, and else the default. -/
  | conditional (rules : List ConditionRule) (fallback : Option String)
  deriving DecidableEq, Repr

/-- An exclusive choice between the children of the elements at an address. -/
structure ChoiceEntry where
  key : String
  target : Address
  spec : ChoiceSpec
  deriving DecidableEq, Repr

-- ===== values, attributes and namespaces

/-- A value for the elements, or their attributes, at an address. -/
structure ValueEntry where
  key : String
  address : Address
  value : ValueSpec
  deriving DecidableEq, Repr

/-- A value for the attributes that a selector names. -/
structure AttributeEntry where
  key : String
  selector : Selector
  value : ValueSpec
  deriving DecidableEq, Repr

/-- A prefix for the elements at an address. -/
structure PrefixRule where
  key : String
  address : Address
  nsPrefix : String
  deriving DecidableEq, Repr

/-- The namespaces of a document. -/
structure NamespaceRules where
  defaultUri : Option String := none
  /-- The URIs of prefixes, in the order of the prefixes. -/
  prefixes : Table String := []
  elements : List PrefixRule := []
  deriving DecidableEq, Repr, Inhabited

/-- Whether nothing is set up. -/
def NamespaceRules.isEmpty (r : NamespaceRules) : Bool :=
  r.defaultUri.isNone && r.prefixes.isEmpty && r.elements.isEmpty

/-- A configuration. -/
structure Config where
  schema : String
  mode : Mode
  seed : Option Nat
  values : List ValueEntry
  patterns : List ValueEntry
  choices : List ChoiceEntry
  templates : List TemplateSpec
  /-- How often elements are repeated, in the order of their names. -/
  repeats : Table Nat
  attributes : List AttributeEntry
  namespaces : NamespaceRules
  deriving DecidableEq, Repr, Inhabited

/-- The template of a name. -/
def Config.template? (c : Config) (name : String) : Option TemplateSpec :=
  c.templates.find? (·.name == name)

end Overlay
