/-
Changing documents. Each change either succeeds, or is refused and leaves the
document as it is. A refusal says what is wrong with the request.
-/
import Overlay.Xml.Document

namespace Overlay.Xml

/-- Why a change is refused. -/
inductive Refusal
  /-- A text or a value holds a character that may not stand in a document. -/
  | forbiddenChar (c : Char)
  | invalidName (name : String)
  | notAnElement (id : Nat)
  | undeclaredPrefix (nsPrefix : String)
  | detachedRoot
  deriving DecidableEq, Repr

/-- The text of a refusal. -/
def Refusal.message : Refusal → String
  | .forbiddenChar c =>
    "character " ++ codePoint c ++ " is not allowed in XML content"
  | .invalidName name => "'" ++ name ++ "' is not a valid XML name"
  | .notAnElement id => "node " ++ toString id ++ " is not an element"
  | .undeclaredPrefix p => "prefix '" ++ p ++ "' is not declared in scope"
  | .detachedRoot => "cannot detach the root element"

/-- Refuses a value that holds a character that may not stand in a document. -/
def checkChars (value : String) : Except Refusal Unit :=
  match firstForbidden? value with
  | some c => .error (.forbiddenChar c)
  | none => .ok ()

/-- Refuses a name that may not be put into a document. -/
def checkName (name : String) : Except Refusal Unit :=
  if isValidName name then .ok () else .error (.invalidName name)

namespace Document

/-- The document with one node of the table changed. -/
def modify (doc : Document) (id : Nat) (f : Node → Node) : Document :=
  { doc with nodes := doc.nodes.modify id f }

/-- The document with a node added to the table, below `parent` and after its
other children. -/
def push (doc : Document) (kind : NodeKind) (parent : Option Nat) :
    Document × Nat :=
  let id := doc.size
  let added := { doc with nodes := doc.nodes.push ⟨kind, parent, []⟩ }
  match parent with
  | some p =>
    (added.modify p fun n => { n with children := n.children ++ [id] }, id)
  | none => (added, id)

/-- A document that holds one element without content. -/
def ofRoot (name : QName) : Except Refusal Document := do
  checkName name.qualified
  return {
    nodes := #[⟨.element ⟨name, none, []⟩, none, []⟩], root := 0,
    prolog := [], epilog := [] }

/-- The element at a node, or the refusal that it is none. -/
def elementOr (doc : Document) (id : Nat) : Except Refusal Element :=
  match doc.element? id with
  | some e => .ok e
  | none => .error (.notAnElement id)

/-- The document with the element at a node replaced. -/
def putElement (doc : Document) (id : Nat) (e : Element) : Document :=
  doc.modify id fun n => { n with kind := .element e }

/-- The document with a node that has no parent any more. -/
def orphan (doc : Document) (id : Nat) : Document :=
  doc.modify id fun n => { n with parent := none }

/-- Whether the node is a text. -/
def isText (doc : Document) (id : Nat) : Bool :=
  ((doc.kind? id).map NodeKind.isText).getD false

/-- Replaces the direct text of an element. Its texts leave the tree; a value
that is not empty becomes a new text in front of the other children. -/
def setText (doc : Document) (id : Nat) (value : String) :
    Except Refusal Document := do
  checkChars value
  let _ ← doc.elementOr id
  let texts := (doc.children id).filter doc.isText
  let others := (doc.children id).filter (!doc.isText ·)
  let cleared := texts.foldl orphan doc
  if value == "" then
    return cleared.modify id fun n => { n with children := others }
  else
    let added :=
      { cleared with nodes := cleared.nodes.push ⟨.text value, some id, []⟩ }
    return added.modify id fun n => { n with children := doc.size :: others }

/-- Replaces the value of the first attribute of that qualified name, or adds
one at the end. -/
def writeAttribute (name value : String) : List Attribute → List Attribute
  | [] => [⟨QName.parse name, value⟩]
  | a :: rest =>
    if a.name.qualified == name then { a with value := value } :: rest
    else a :: writeAttribute name value rest

/-- Sets an attribute by its qualified name. -/
def setAttribute (doc : Document) (id : Nat) (name value : String) :
    Except Refusal Document := do
  checkName name
  checkChars value
  let e ← doc.elementOr id
  return doc.putElement id
    { e with attributes := writeAttribute name value e.attributes }

/-- Gives an element another name. Its namespace becomes the one that the new
prefix stands for at the element; a prefix that is not declared there is
refused. -/
def rename (doc : Document) (id : Nat) (name : QName) :
    Except Refusal Document := do
  checkName name.qualified
  let uri := doc.lookupNamespace id name.nsPrefix
  if let some p := name.nsPrefix then
    if uri.isNone then throw (.undeclaredPrefix p)
  let e ← doc.elementOr id
  return doc.putElement id { e with name := name, uri := uri }

/-- Takes a node and everything below it out of the tree. -/
def detach (doc : Document) (id : Nat) : Except Refusal Document :=
  if id == doc.root then .error .detachedRoot
  else
    match doc.parent? id with
    | some p =>
      .ok ((doc.orphan id).modify p fun n =>
        { n with children := n.children.filter (· != id) })
    | none => .ok doc

end Document

end Overlay.Xml
