/-
The index of a document: an entry for every element of the tree, with the names
and positions on the way from the root to it. The children of an element are
listed together, before anything below them.

Elements are found by the path of their names, by their own name, and by the
path with positions, which no two elements share.
-/
import Overlay.Table
import Overlay.Xml.Document

namespace Overlay

open Text

/-- An element on the way from the root to an indexed element. -/
structure Link where
  qualified : String
  localName : String
  /-- The position among the siblings of the same local name, counted from one.
  -/
  position : Nat
  deriving DecidableEq, Repr

/-- An indexed element. -/
structure IndexEntry where
  node : Nat
  /-- The way from the root; the element itself comes last. -/
  chain : List Link
  uri : Option String
  nsPrefix : Option String
  /-- The path from the root, with a position at each name that a sibling has
  too. -/
  positional : String
  deriving Repr

namespace IndexEntry

/-- The local name of the element. -/
def localName (e : IndexEntry) : String :=
  (e.chain.getLast?.map (·.localName)).getD ""

/-- The path of local names from the root. -/
def path (e : IndexEntry) : String :=
  join "" (e.chain.map fun l => "/" ++ l.localName)

end IndexEntry

/-- The entries of a document's elements, and the same entries by path and by
local name. -/
structure ElementIndex where
  entries : List IndexEntry
  byPath : Table (List Nat)
  byName : Table (List IndexEntry)

namespace ElementIndex

open Xml (Document)

/-- The qualified name of an element. -/
def qualifiedName (doc : Document) (id : Nat) : String :=
  ((doc.name? id).map (·.qualified)).getD ""

/-- The entry of an element at the end of a chain. -/
def entryAt (doc : Document) (id : Nat) (chain : List Link)
    (positional : String) : IndexEntry :=
  { node := id
    chain := chain
    uri := doc.uri? id
    nsPrefix := (doc.name? id).bind (·.nsPrefix)
    positional := positional }

/-- The children of an element with their positions; `before` are the names of
the siblings that were passed already. -/
def positions (doc : Document) (before : List String) :
    List Nat → List (Nat × Nat)
  | [] => []
  | id :: rest =>
    let name := doc.localName id
    (id, before.count name + 1) :: positions doc (name :: before) rest

/-- The entries of an element's children. -/
def childEntries (doc : Document) (parent : IndexEntry) : List IndexEntry :=
  let children := doc.elementChildren parent.node
  let names := children.map doc.localName
  (positions doc [] children).map fun (id, position) =>
    let name := doc.localName id
    let own :=
      if names.count name > 1 then name ++ "[" ++ toString position ++ "]"
      else name
    entryAt doc id (parent.chain ++ [⟨qualifiedName doc id, name, position⟩])
      (parent.positional ++ "/" ++ own)

/-- The entries of everything below an element: its children, and then what is
below each. -/
def entriesBelow (doc : Document) (parent : IndexEntry) : List IndexEntry :=
  let children := childEntries doc parent
  children ++ children.flatMap fun e =>
    if _h : parent.node < e.node ∧ e.node < doc.size then entriesBelow doc e
    else []
termination_by doc.size - parent.node
decreasing_by omega

/-- The entry of the root. -/
def rootEntry (doc : Document) : IndexEntry :=
  let name := doc.localName doc.root
  entryAt doc doc.root [⟨qualifiedName doc doc.root, name, 1⟩] ("/" ++ name)

/-- Values gathered under their keys, in order. -/
def gather {α : Type} (entries : List (String × α)) : Table (List α) :=
  entries.foldl
    (fun t e => Table.insert e.1 ((Table.find? e.1 t).getD [] ++ [e.2]) t) []

/-- The index of some entries. -/
def ofEntries (entries : List IndexEntry) : ElementIndex :=
  { entries := entries
    byPath := gather (entries.map fun e => (e.path, e.node))
    byName := gather (entries.map fun e => (e.localName, e)) }

/-- The index of a document. -/
def ofDocument (doc : Document) : ElementIndex :=
  let root := rootEntry doc
  ofEntries (root :: entriesBelow doc root)

variable (index : ElementIndex)

/-- The number of elements. -/
def size : Nat := index.entries.length

/-- The entry of an element. -/
def entry? (node : Nat) : Option IndexEntry :=
  index.entries.find? (·.node == node)

/-- The elements at a path of local names. -/
def nodesAt (path : String) : List Nat :=
  (Table.find? path index.byPath).getD []

/-- The entries of the elements with a local name. -/
def named (name : String) : List IndexEntry :=
  (Table.find? name index.byName).getD []

/-- The element at a path with positions. -/
def nodeAtPosition? (positional : String) : Option Nat :=
  (index.entries.find? (·.positional == positional)).map (·.node)

end ElementIndex

end Overlay
