/-
A pass over a document. Elements are looked up in the index of the document as
it was before the pass, so that no assignment changes what another one reaches.

A slot is claimed by the write that it holds, and a write to a slot whose claim
is more specific is left out. Whatever goes wrong is noted as an event and ends
nothing.
-/
import Overlay.Address.Resolve
import Overlay.Override.Event
import Overlay.Override.Sources

namespace Overlay

open Text Xml

-- ===== slots

/-- The path of a slot in a document. -/
def Slot.path (doc : Document) (s : Slot) : String :=
  match s.attr with
  | some name => doc.pathOf s.node ++ "@" ++ name
  | none => doc.pathOf s.node

/-- What a slot of a document holds. -/
def Slot.read (doc : Document) (s : Slot) : Option String :=
  match s.attr with
  | some name => doc.attribute? s.node name
  | none => doc.text? s.node

/-- Writes a value to a slot. -/
def Slot.put (doc : Document) (s : Slot) (value : String) :
    Except Refusal Document :=
  match s.attr with
  | some name => doc.setAttribute s.node name value
  | none => doc.setText s.node value

/-- A pass under way. -/
structure Pass where
  doc : Document
  resolver : PathResolver
  sources : Sources
  /-- The claims on slots, the latest first. -/
  claims : List (Slot × Claim) := []
  events : List Event := []

/-- How many places an assignment has found, and how many values it has
written. -/
structure Tally where
  places : Nat := 0
  written : Nat := 0

namespace Pass

/-- Notes an event. -/
def note (p : Pass) (e : Event) : Pass := { p with events := p.events ++ [e] }

/-- The claim on a slot. -/
def claim? (p : Pass) (slot : Slot) : Option Claim :=
  (p.claims.find? (·.1 == slot)).map (·.2)

/-- The elements at an address. -/
def resolve (index : ElementIndex) (a : Address) (p : Pass) : List Nat × Pass :=
  let (nodes, resolver) := PathResolver.resolve index a p.resolver
  (nodes, { p with resolver := resolver })

-- ===== writing

/-- Writes to a slot, whoever claims it, and says whether that was done. -/
def put (w : Write) (p : Pass) : Pass × Bool :=
  match w.slot.put p.doc w.value with
  | .ok doc =>
    ({ p with
        doc := doc
        claims := (w.slot, ⟨w.key, w.precedence⟩) :: p.claims
        events := p.events ++ [.written w] }, true)
  | .error why => (p.note (.refused w (w.slot.path p.doc) why), false)

/-- Writes to a slot unless a more specific write holds it, and says whether
that was done. -/
def write (w : Write) (p : Pass) : Pass × Bool :=
  match p.claim? w.slot with
  | some holder =>
    if holder.precedence > w.precedence then
      (p.note (.shadowed w (w.slot.path p.doc) holder), false)
    else p.put w
  | none => p.put w

/-- Writes, and counts the write if it was done. -/
def writeCounted (w : Write) (acc : Pass × Tally) : Pass × Tally :=
  let (p, written) := acc.1.write w
  (p, if written then { acc.2 with written := acc.2.written + 1 } else acc.2)

-- ===== one element

/-- The element at the end of a way of names, each step leading to the first
child of that name. -/
def descend (doc : Document) (node : Nat) : List (List Char) → Option Nat
  | [] => some node
  | name :: rest =>
    match (doc.elementChildren node).find?
        (doc.localName · == String.ofList name) with
    | some child => descend doc child rest
    | none => none

/-- The element below `node` that a field of a row stands for. -/
def fieldElement (doc : Document) (node : Nat) (field : String) : Option Nat :=
  descend doc node (splitOn '.' field.toList)

/-- Writes the fields of a row to the elements below a node that they stand
for. -/
def fillRow (a : Assignment) (node : Nat) (row : Row) (start : Pass × Tally) :
    Pass × Tally :=
  row.foldl (fun acc (field, value) =>
    match fieldElement acc.1.doc node field with
    | some target =>
      writeCounted ⟨a.key, ⟨target, none⟩, a.address.precedence, value⟩ acc
    | none => acc) start

/-- Finds a place, in the tally. -/
def found (acc : Pass × Tally) : Pass × Tally :=
  (acc.1, { acc.2 with places := acc.2.places + 1 })

/-- Writes a whole row below the element with number `k`. -/
def assignRow (a : Assignment) (r : RowRef) (node k : Nat)
    (acc : Pass × Tally) : Pass × Tally :=
  let (p, tally) := found acc
  let (row, sources) := Sources.sharedRow r k p.sources
  let p := { p with sources := sources }
  match row with
  | some row => fillRow a node row (p, tally)
  | none => (p.note (.missed a.key (.noValue r.raw)), tally)

/-- Writes the value of an assignment to a slot of the element with number `k`.
-/
def assignSlot (a : Assignment) (k : Nat) (acc : Pass × Tally) (slot : Slot) :
    Pass × Tally :=
  let (p, tally) := found acc
  let (text, sources) := Sources.textFor? a.value k p.sources
  let p := { p with sources := sources }
  match text with
  | some text =>
    writeCounted ⟨a.key, slot, a.address.precedence, text⟩ (p, tally)
  | none => (p.note (.missed a.key (.noValue a.value.raw)), tally)

/-- Those of some names that match a pattern. -/
def matching (pattern : String) :
    List String → StateM PathResolver (List String)
  | [] => pure []
  | name :: rest => do
    let hit ← PathResolver.nameMatches pattern name
    let others ← matching pattern rest
    return if hit then name :: others else others

/-- The names of an element's attributes, declarations left out. -/
def attributeNames (doc : Document) (node : Nat) : List String :=
  ((doc.attributes node).filter (!·.name.isDeclaration)).map (·.name.qualified)

/-- The attributes of an element that an assignment is for. -/
def attributeTargets (pattern : String) (creates : Bool) (node : Nat)
    (p : Pass) : List String × Pass :=
  if isWild pattern then
    let (names, resolver) :=
      matching pattern (attributeNames p.doc node) p.resolver
    (names, { p with resolver := resolver })
  else if creates || p.doc.hasAttribute node pattern then ([pattern], p)
  else ([], p)

/-- Carries out an assignment on the element with number `k`. -/
def assignElement (a : Assignment) (acc : Pass × Tally) (node k : Nat) :
    Pass × Tally :=
  match a.address.attr with
  | some pattern =>
    let (names, p) := attributeTargets pattern a.creates node acc.1
    (names.map fun name => (⟨node, some name⟩ : Slot)).foldl
      (assignSlot a k) (p, acc.2)
  | none =>
    match a.value with
    | .templated r =>
      if r.field.isNone then assignRow a r node k acc
      else assignSlot a k acc ⟨node, none⟩
    | _ => assignSlot a k acc ⟨node, none⟩

-- ===== assignments

/-- Notes the end of an assignment. -/
def concludeAssignment (a : Assignment) (acc : Pass × Tally) : Pass :=
  let (p, tally) := acc
  let p := if tally.places == 0 then p.note (.missed a.key .noAttribute) else p
  if tally.written > 0 then p.note (.assigned a tally.written) else p

/-- Carries out an assignment. -/
def assign (index : ElementIndex) (p : Pass) (a : Assignment) : Pass :=
  let (nodes, p) := p.resolve index a.address
  match nodes with
  | [] => p.note (.missed a.key .noElement)
  | nodes =>
    concludeAssignment a
      (nodes.zipIdx.foldl
        (fun acc (node, k) => assignElement a acc node k) (p, {}))

/-- Carries out a step of a plan. -/
def carryOut (index : ElementIndex) (p : Pass) : Task → Pass
  | .assign a => p.assign index a
  | .malformed key why => p.note (.malformed key why)

-- ===== namespaces

/-- Declares a namespace on the root. -/
def declare (p : Pass) (name : QName) (uri : String) : Pass :=
  match p.doc.setAttribute p.doc.root name.qualified uri with
  | .ok doc => { p with doc := doc }.note (.declared name.qualified uri)
  | .error why => p.note (.undeclared name.qualified why)

/-- Gives an element a prefix, and counts it if that was done. -/
def addPrefix (rule : PrefixRule) (acc : Pass × Nat) (node : Nat) :
    Pass × Nat :=
  let (p, count) := acc
  match p.doc.rename node ⟨some rule.nsPrefix, p.doc.localName node⟩ with
  | .ok doc => ({ p with doc := doc }, count + 1)
  | .error why => (p.note (.notRenamed rule.key (p.doc.pathOf node) why), count)

/-- Gives the elements at an address a prefix. -/
def applyPrefix (index : ElementIndex) (p : Pass) (rule : PrefixRule) : Pass :=
  let (nodes, p) := p.resolve index rule.address
  match nodes with
  | [] => p.note (.missed rule.key .noElement)
  | nodes =>
    let (p, count) := nodes.foldl (addPrefix rule) (p, 0)
    if count > 0 then p.note (.prefixed rule count) else p

/-- Declares the namespaces, the default one first, and gives elements their
prefixes. -/
def applyNamespaces (index : ElementIndex) (p : Pass) (rules : NamespaceRules) :
    Pass :=
  let p := match rules.defaultUri with
    | some uri => p.declare (.declaring none) uri
    | none => p
  let p := rules.prefixes.foldl
    (fun p (name, uri) => p.declare (.declaring (some name)) uri) p
  rules.elements.foldl (applyPrefix index) p

-- ===== the whole pass

/-- Carries out the assignments and the namespaces of a configuration. -/
def run (index : ElementIndex) (c : Config) (p : Pass) : Pass :=
  (c.plan.foldl (carryOut index) p).applyNamespaces index c.namespaces

end Pass

end Overlay
