/-
Documents. The nodes of a document are numbered in the order in which they were
made and keep their numbers for good; a node knows its parent and its children.
A parent is always older than its children, so that walking up ends because
numbers fall, and walking down because they rise.

Taking a node out of the tree leaves it, and everything below it, in the table.
-/
import Overlay.Xml.Name

namespace Overlay.Xml

/-- An attribute. Namespace declarations are attributes too. -/
structure Attribute where
  name : QName
  value : String
  deriving DecidableEq, Repr, Inhabited

/-- An element: its name, the URI of its namespace if it is in one, and its
attributes in order. -/
structure Element where
  name : QName
  uri : Option String
  attributes : List Attribute
  deriving DecidableEq, Repr, Inhabited

/-- What a node is. -/
inductive NodeKind
  | element (e : Element)
  | text (value : String)
  | comment (value : String)
  | instruction (target : String) (data : Option String)
  deriving DecidableEq, Repr, Inhabited

/-- A node of the table; its parent and its children by their numbers. -/
structure Node where
  kind : NodeKind
  parent : Option Nat
  children : List Nat
  deriving DecidableEq, Repr, Inhabited

/-- A document: the table of nodes, the root element, and the comments and
processing instructions before and after it. -/
structure Document where
  nodes : Array Node
  root : Nat
  prolog : List Nat
  epilog : List Nat
  deriving Inhabited

/-- Whether this is a text. -/
def NodeKind.isText : NodeKind → Bool
  | .text _ => true
  | _ => false

/-- The element, if this is one. -/
def NodeKind.element? : NodeKind → Option Element
  | .element e => some e
  | _ => none

namespace Document

variable (doc : Document)

/-- The number of nodes made so far. -/
def size : Nat := doc.nodes.size

/-- What the node is. -/
def kind? (id : Nat) : Option NodeKind := doc.nodes[id]?.map (·.kind)

/-- The element at a node. -/
def element? (id : Nat) : Option Element :=
  (doc.kind? id).bind NodeKind.element?

/-- Whether the node is an element. -/
def isElement (id : Nat) : Bool := (doc.element? id).isSome

/-- The parent of a node that has one. -/
def parent? (id : Nat) : Option Nat := doc.nodes[id]?.bind (·.parent)

/-- The children of a node, in order. -/
def children (id : Nat) : List Nat := (doc.nodes[id]?.map (·.children)).getD []

/-- The children that are elements. -/
def elementChildren (id : Nat) : List Nat :=
  (doc.children id).filter doc.isElement

/-- The name of an element. -/
def name? (id : Nat) : Option QName := (doc.element? id).map (·.name)

/-- The name of an element without its prefix; empty for other nodes. -/
def localName (id : Nat) : String := ((doc.name? id).map (·.localName)).getD ""

/-- The URI of an element's namespace. -/
def uri? (id : Nat) : Option String := (doc.element? id).bind (·.uri)

/-- The attributes of an element, in order. -/
def attributes (id : Nat) : List Attribute :=
  ((doc.element? id).map (·.attributes)).getD []

/-- The value of the attribute with this qualified name. -/
def attribute? (id : Nat) (name : String) : Option String :=
  ((doc.attributes id).find? (·.name.qualified == name)).map (·.value)

/-- Whether the element has an attribute with this qualified name. -/
def hasAttribute (id : Nat) (name : String) : Bool :=
  (doc.attribute? id name).isSome

/-- The texts among the children of a node. -/
def directTexts (id : Nat) : List String :=
  (doc.children id).filterMap fun c =>
    match doc.kind? c with
    | some (.text t) => some t
    | _ => none

/-- The texts directly below a node, run together; none if there is no such
text. -/
def text? (id : Nat) : Option String :=
  match doc.directTexts id with
  | [] => none
  | texts => some (String.join texts)

-- ===== walking up

/-- The node and its ancestors, the node first. -/
def lineage (id : Nat) : List Nat :=
  match doc.parent? id with
  | some p => if _h : p < id then id :: lineage p else [id]
  | none => [id]
termination_by id

/-- The path of local names from the root to the node, as `/a/b`. -/
def pathOf (id : Nat) : String :=
  "/" ++ Text.join "/" ((doc.lineage id).reverse.map doc.localName)

/-- Whether the root is the node or one of its ancestors. -/
def isAttached (id : Nat) : Bool := (doc.lineage id).contains doc.root

/-- The value of the attribute that declares `nsPrefix` (or the default
namespace) on an element. -/
def declaration? (nsPrefix : Option String) (id : Nat) : Option String :=
  ((doc.attributes id).find? (·.name == QName.declaring nsPrefix)).map (·.value)

/-- The URI that a prefix (or, without one, the default namespace) stands for
at a node. The nearest declaration decides; an empty one means that there is no
namespace. -/
def lookupNamespace (id : Nat) (nsPrefix : Option String) : Option String :=
  if nsPrefix == some "xml" then some xmlUri
  else ((doc.lineage id).findSome? (doc.declaration? nsPrefix)).filter (· != "")

-- ===== walking down

/-- The elements below a node in document order, the node itself left out. -/
def descendants (id : Nat) : List Nat :=
  (doc.elementChildren id).flatMap fun c =>
    if _h : id < c ∧ c < doc.size then c :: descendants c else []
termination_by doc.size - id
decreasing_by omega

/-- All elements of the tree in document order. -/
def elements : List Nat := doc.root :: doc.descendants doc.root

/-- The node and everything below it, in document order. -/
def subtree (id : Nat) : List Nat :=
  id :: (doc.children id).flatMap fun c =>
    if _h : id < c ∧ c < doc.size then subtree c else []
termination_by doc.size - id
decreasing_by omega

end Document

end Overlay.Xml
