/-
The plan of a configuration: all its assignments in the order in which they are
carried out. Plain values come first, then patterns, then whatever refers to
templates, each group from the least specific address to the most specific one,
and attributes last in the order of the configuration.
-/
import Overlay.Config

namespace Overlay

/-- The parts of a pass. -/
inductive Phase
  | values
  | patterns
  | templates
  | attributes
  deriving DecidableEq, Repr

/-- The name of a phase. -/
def Phase.name : Phase → String
  | .values => "values"
  | .patterns => "patterns"
  | .templates => "templates"
  | .attributes => "attributes"

/-- A value for all elements at an address, or for an attribute of them. -/
structure Assignment where
  phase : Phase
  key : String
  address : Address
  value : ValueSpec
  /-- Whether an attribute is added to the elements that lack it. -/
  creates : Bool
  deriving Repr

/-- A step of a plan. -/
inductive Task
  | assign (a : Assignment)
  /-- The selector of an attribute is no address. -/
  | malformed (key : String) (why : Address.Malformed)
  deriving Repr

/-- The assignment of a value; a pattern adds no attributes. -/
def ValueEntry.assignment (phase : Phase) (e : ValueEntry) : Assignment :=
  { phase := phase
    key := e.key
    address := e.address
    value := e.value
    creates := !e.address.isPattern }

/-- Entries from the least specific one to the most specific one; equals keep
their order. -/
def bySpecificity (entries : List ValueEntry) : List ValueEntry :=
  entries.mergeSort fun a b => a.address.precedence ≤ b.address.precedence

/-- The assignments of a phase. -/
def phaseTasks (phase : Phase) (entries : List ValueEntry) : List Task :=
  (bySpecificity entries).map fun e => .assign (e.assignment phase)

/-- The address of a selector. -/
def Selector.address? : Selector → Except Address.Malformed Address
  | .existing element attr => Address.parse (element ++ "@" ++ attr)
  | .every element attr => Address.parse (element ++ "@" ++ attr)
  | .address a => .ok a

/-- Whether the attributes that a selector names are added to the elements that
lack them. -/
def Selector.creates : Selector → Bool
  | .existing _ _ => false
  | _ => true

/-- The assignment of an attribute. -/
def AttributeEntry.task (e : AttributeEntry) : Task :=
  match e.selector.address? with
  | .ok address =>
    .assign ⟨.attributes, e.key, address, e.value, e.selector.creates⟩
  | .error why => .malformed e.key why

/-- The plan of a configuration. -/
def Config.plan (c : Config) : List Task :=
  let plain (entries : List ValueEntry) := entries.filter (!·.value.isTemplate)
  let templated (entries : List ValueEntry) :=
    entries.filter (·.value.isTemplate)
  phaseTasks .values (plain c.values)
    ++ phaseTasks .patterns (plain c.patterns)
    ++ phaseTasks .templates (templated c.values ++ templated c.patterns)
    ++ c.attributes.map AttributeEntry.task

end Overlay
