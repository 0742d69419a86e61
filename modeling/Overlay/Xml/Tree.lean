/-
Documents as trees. A tree forgets the numbers of the nodes; two documents with
the same trees have the same content. `Document.ofTrees` numbers a tree depth
first, and `Document.tree` forgets the numbers again.
-/
import Overlay.Xml.Edit

namespace Overlay.Xml

/-- A node with everything below it. -/
inductive Tree
  | element (e : Element) (children : List Tree)
  | text (value : String)
  | comment (value : String)
  | instruction (target : String) (data : Option String)
  deriving Inhabited

/-- The node at the top of a tree. -/
def Tree.kind : Tree → NodeKind
  | .element e _ => .element e
  | .text s => .text s
  | .comment s => .comment s
  | .instruction t d => .instruction t d

/-- The content of a document: what stands before the root element, the root,
what stands after. -/
structure Content where
  prolog : List Tree
  root : Tree
  epilog : List Tree

namespace Document

mutual

/-- Adds a tree below `parent`, the node first and then its children in order.
-/
def place (doc : Document) (parent : Option Nat) : Tree → Document
  | .element e children =>
    let (doc, id) := doc.push (.element e) parent
    placeAll doc id children
  | .text s => (doc.push (.text s) parent).1
  | .comment s => (doc.push (.comment s) parent).1
  | .instruction t d => (doc.push (.instruction t d) parent).1

/-- Adds trees below a node, one after the other. -/
def placeAll (doc : Document) (parent : Nat) : List Tree → Document
  | [] => doc
  | t :: rest => placeAll (place doc (some parent) t) parent rest

end

/-- Adds trees without a parent, and answers their numbers. -/
def placeFree (doc : Document) : List Tree → Document × List Nat
  | [] => (doc, [])
  | t :: rest =>
    let (after, ids) := placeFree (doc.place none t) rest
    (after, doc.size :: ids)

/-- The document with this content. Nodes are numbered in the order in which
they are written. -/
def ofContent (content : Content) : Document :=
  let empty : Document :=
    { nodes := #[], root := 0, prolog := [], epilog := [] }
  let (before, prolog) := empty.placeFree content.prolog
  let withRoot := before.place none content.root
  let (whole, epilog) := withRoot.placeFree content.epilog
  { whole with root := before.size, prolog := prolog, epilog := epilog }

/-- The tree at a node. -/
def tree (doc : Document) (id : Nat) : Tree :=
  match doc.kind? id with
  | some (.element e) =>
    .element e ((doc.children id).flatMap fun c =>
      if _h : id < c ∧ c < doc.size then [doc.tree c] else [])
  | some (.text s) => .text s
  | some (.comment s) => .comment s
  | some (.instruction t d) => .instruction t d
  | none => .text ""
termination_by doc.size - id
decreasing_by omega

/-- The content of a document. -/
def content (doc : Document) : Content :=
  { prolog := doc.prolog.map doc.tree, root := doc.tree doc.root,
    epilog := doc.epilog.map doc.tree }

end Document

end Overlay.Xml
