/-
Reading configurations. The sections of a configuration are read one after the
other, and every problem met is noted; a configuration is accepted if there are
none. Templates are read first, for a value may only refer to a template that
is declared.
-/
import Overlay.Config.Choice
import Overlay.Config.Template
import Overlay.Json.Reader
import Overlay.Toml.Reader

namespace Overlay.Config

open Text

-- ===== single settings

/-- The schema, a text that is not blank. -/
def readSchema (root : Json.Fields) : Checked String :=
  match Table.find? "schema" root with
  | none => do Checked.note .schemaMissing; return ""
  | some v =>
    match solidText? v with
    | some s => pure s
    | none => do Checked.note (.schemaNotText v); return ""

/-- The mode. -/
def readMode (root : Json.Fields) : Checked Mode :=
  match Table.find? "mode" root with
  | none => do Checked.note .modeMissing; return .complete
  | some (.text s) =>
    match Mode.parse s with
    | .ok mode => pure mode
    | .error word => do Checked.note (.unknownMode word); return .complete
  | some other => do Checked.note (.modeNotText other); return .complete

/-- The seed, a word of 64 bits, if there is one. -/
def readSeed (root : Json.Fields) : Checked (Option Nat) :=
  match Table.find? "seed" root with
  | none => pure none
  | some .null => pure none
  | some v =>
    match v.natural? Decimal.wordBound with
    | some n => pure (some n)
    | none => .failed (.seedNotNatural v)

-- ===== sections

/-- The fields of a section; a missing section and null have none. -/
def sectionFields (root : Json.Fields) (name : String) : Checked Json.Fields :=
  match Table.find? name root with
  | none => pure []
  | some .null => pure []
  | some (.object fields) => pure fields
  | some other => do
    Checked.note (.sectionNotObject name other)
    return []

/-- The address that a key is. -/
def readKey (sectionName key : String) : Checked (Option Address) :=
  match Address.parse key with
  | .ok a => pure (some a)
  | .error why => .failed (.keyNotAddress sectionName why)

/-- A text, a number or a boolean as a value. -/
def scalarSpec? (v : Json) : Option ValueSpec :=
  match v with
  | .text s => some (.parse s)
  | .integer _ => some (.literal (scalarText v))
  | .real _ => some (.literal (scalarText v))
  | .bool _ => some (.literal (scalarText v))
  | _ => none

/-- A value; one that refers to a template must refer to a declared one. -/
def readValue (templates : List String) (sectionName key : String) (v : Json) :
    Checked (Option ValueSpec) :=
  match scalarSpec? v with
  | none => .failed (.valueNotScalar sectionName key v)
  | some (.templated ref) =>
    if templates.contains ref.template then pure (some (.templated ref))
    else .failed (.unknownTemplate sectionName key ref.template)
  | some spec => pure (some spec)

/-- Both of two things, if both are there. -/
def both {α β γ : Type} (make : α → β → γ) (a : Option α) (b : Option β) :
    Option γ :=
  a.bind fun a => b.map fun b => make a b

/-- An entry of `values` or `patterns`. -/
def readValueEntry (templates : List String) (sectionName : String)
    (entry : String × Json) : Checked (Option ValueEntry) := do
  let address ← readKey sectionName entry.1
  let value ← readValue templates sectionName entry.1 entry.2
  return both (ValueEntry.mk entry.1) address value

/-- The entries of `values` or `patterns`. -/
def readValueEntries (root : Json.Fields) (templates : List String)
    (sectionName : String) : Checked (List ValueEntry) := do
  Checked.collect (readValueEntry templates sectionName)
    (← sectionFields root sectionName)

/-- An entry of `choices`. -/
def readChoiceEntry (entry : String × Json) : Checked (Option ChoiceEntry) := do
  let target ← readKey "choices" entry.1
  let spec ← readChoiceSpec entry.1 entry.2
  return both (ChoiceEntry.mk entry.1) target spec

/-- An entry of `repeats`, a number of 32 bits. -/
def readRepeat (entry : String × Json) : Checked (Option (String × Nat)) :=
  match entry.2.natural? (twoTo 32) with
  | some n => pure (some (entry.1, n))
  | none => .failed (.repeatNotNatural entry.1 entry.2)

/-- The selector that a key is. -/
def readSelector (key : String) : Checked (Option Selector) :=
  match Selector.parse key with
  | .ok s => pure (some s)
  | .error why => .failed (.keyNotSelector key why)

/-- An entry of `attributes`. -/
def readAttributeEntry (templates : List String) (entry : String × Json) :
    Checked (Option AttributeEntry) := do
  let selector ← readSelector entry.1
  let value ← readValue templates "attributes" entry.1 entry.2
  return both (AttributeEntry.mk entry.1) selector value

/-- The entries in the order of their names. -/
def ordered {α : Type} (entries : List (String × α)) : Table α :=
  entries.foldl (fun t e => Table.insertOrdered e.1 e.2 t) []

-- ===== namespaces

/-- The URI of the default namespace. -/
def readDefaultUri (fields : Json.Fields) : Checked (Option String) :=
  match Table.find? "default" fields with
  | none => pure none
  | some .null => pure none
  | some (.text s) => pure (some s)
  | some other => .failed (.defaultNotText other)

/-- The URI of a prefix. -/
def readPrefix (entry : String × Json) : Checked (Option (String × String)) :=
  match entry.2 with
  | .text uri => pure (some (entry.1, uri))
  | other => .failed (.uriNotText entry.1 other)

/-- The prefix that a rule gives, which must be declared. -/
def readRulePrefix (prefixes : Table String) (key : String) (v : Json) :
    Checked (Option String) :=
  match v with
  | .text p =>
    if Table.has p prefixes then pure (some p)
    else .failed (.undeclaredPrefix key p)
  | other => .failed (.prefixNotText key other)

/-- A rule that gives elements a prefix. -/
def readPrefixRule (prefixes : Table String) (entry : String × Json) :
    Checked (Option PrefixRule) := do
  let address ← readKey "namespaces.elements" entry.1
  let nsPrefix ← readRulePrefix prefixes entry.1 entry.2
  return both (PrefixRule.mk entry.1) address nsPrefix

/-- The namespaces of a configuration. -/
def readNamespaces (root : Json.Fields) : Checked NamespaceRules := do
  let fields ← sectionFields root "namespaces"
  let uri ← readDefaultUri fields
  let declared ← Checked.collect readPrefix (← sectionFields fields "prefixes")
  let prefixes := ordered declared
  let rules ← Checked.collect (readPrefixRule prefixes)
    (← sectionFields fields "elements")
  return { defaultUri := uri, prefixes := prefixes, elements := rules }

-- ===== whole configurations

/-- All sections of a configuration. -/
def readRoot (root : Json.Fields) : Checked Config := do
  let schema ← readSchema root
  let mode ← readMode root
  let seed ← readSeed root
  let templates ←
    Checked.collect readTemplate (← sectionFields root "templates")
  let names := templates.map (·.name)
  let values ← readValueEntries root names "values"
  let patterns ← readValueEntries root names "patterns"
  let choices ← Checked.collect readChoiceEntry (← sectionFields root "choices")
  let repeats ← Checked.collect readRepeat (← sectionFields root "repeats")
  let attributes ←
    Checked.collect (readAttributeEntry names)
      (← sectionFields root "attributes")
  let namespaces ← readNamespaces root
  return {
    schema := schema
    mode := mode
    seed := seed
    values := values
    patterns := patterns
    choices := choices
    templates := templates
    repeats := ordered repeats
    attributes := attributes
    namespaces := namespaces }

/-- The configuration that a JSON value is. -/
def ofJson (v : Json) : Except (List Problem) Config :=
  match v with
  | .object root => (readRoot root).toExcept
  | _ => .error [.notAnObject]

/-- The form in which a configuration is written. -/
inductive Format
  | json
  | toml
  deriving DecidableEq, Repr

/-- Reads a configuration. -/
def parse (format : Format) (text : String) : Except (List Problem) Config :=
  match format with
  | .json =>
    match Json.read? text with
    | some v => ofJson v
    | none => .error [.invalidJson]
  | .toml =>
    match Toml.read? text with
    | some v => ofJson v
    | none => .error [.invalidToml]

end Overlay.Config
