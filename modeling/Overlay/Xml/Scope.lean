/-
Prefixes and namespaces. A scope lists the declarations that hold at an
element: its own in the order in which they are written, then those of its
parent that it does not declare again.

A document does not remember which prefix a name was written with. It keeps the
URI, and the prefix is looked up again: the first declaration in scope with
that URI gives it, and if that is the declaration of the default namespace, the
name has no prefix.
-/
import Overlay.Xml.Tree

namespace Overlay.Xml

/-- A declaration: a prefix, or none for the default namespace, and a URI. -/
abbrev Binding := Option String × String

/-- The declarations that hold at an element, in the order in which they are
searched. -/
abbrev Scope := List Binding

namespace Scope

/-- The URI that a prefix stands for. -/
def uri? (scope : Scope) (nsPrefix : Option String) : Option String :=
  scope.lookup nsPrefix

/-- The prefix under which names of a namespace are kept. -/
def prefixOf? (scope : Scope) (uri : String) : Option String :=
  if uri == xmlUri then some "xml" else (scope.find? (·.2 == uri)).bind (·.1)

/-- The scope inside an element with these declarations of its own. -/
def enter (scope own : Scope) : Scope :=
  if own.isEmpty then scope
  else
    scope.foldl
      (fun all b => if all.any (·.1 == b.1) then all else all ++ [b]) own

/-- The URI of a name that is written with a prefix; the prefix has to be
declared. -/
def uriOfPrefix (scope : Scope) (nsPrefix : String) : Option (Option String) :=
  (scope.uri? (some nsPrefix)).map some

end Scope

/-- The declaration that an attribute makes, if it makes one; `none` outside if
it may not be made. The prefix `xml` may be declared only as what it already
is, which adds nothing, and a prefix may be declared once. -/
def bindingOf (own : Scope) (name : QName) (value : String) :
    Option (Option Binding) :=
  if name.nsPrefix == some "xmlns" then
    let allowed :=
      value != xmlnsUri && ((name.localName == "xml") == (value == xmlUri))
      && (own.all (·.1 != some name.localName))
    if !allowed then none
    else if value == xmlUri then some none
    else some (some (some name.localName, value))
  else if name.localName == "xmlns" then
    if value == xmlUri || value == xmlnsUri then none
    else some (some (none, value))
  else some none

/-- Whether an attribute makes a declaration. -/
def declares (name : QName) : Bool :=
  name.nsPrefix == some "xmlns" || name.localName == "xmlns"

/-- The declarations of an element, in order. -/
def ownBindings (attributes : List (QName × String)) : Option Scope :=
  attributes.foldlM (fun own (name, value) =>
    (bindingOf own name value).map fun b => own ++ b.toList) []

/-- The URI and the local name of an attribute in a scope. Without a prefix it
is in no namespace. -/
def expandAttributeName (scope : Scope) (name : QName) :
    Option (Option String × String) :=
  match name.nsPrefix with
  | none => some (none, name.localName)
  | some "xml" => some (some xmlUri, name.localName)
  | some p => (scope.uriOfPrefix p).map fun uri => (uri, name.localName)

/-- An attribute with the prefix that its URI has in a scope. -/
def attributeIn (scope : Scope) (expanded : Option String × String)
    (value : String) : Attribute :=
  ⟨⟨expanded.1.bind scope.prefixOf?, expanded.2⟩, value⟩

/-- The attribute that makes a declaration. -/
def Binding.toAttribute (b : Binding) : Attribute := ⟨QName.declaring b.1, b.2⟩

/-- The attributes of a tag in the scope around it, resolved, and the scope
inside. Declarations that hold outside already are left out, the others come
before the other attributes; no two attributes have the same URI and local
name. -/
def resolveAttributes (scope : Scope) (attributes : List (QName × String)) :
    Option (List Attribute × Scope) := do
  let own ← ownBindings attributes
  let inner := scope.enter own
  let others := attributes.filter (!declares ·.1)
  let expanded ← others.mapM fun (n, _) => expandAttributeName inner n
  guard (expanded.eraseDups.length == expanded.length)
  let kept :=
    (expanded.zip others).map fun (e, (_, value)) => attributeIn inner e value
  return ((own.filter (!scope.contains ·)).map Binding.toAttribute ++ kept,
    inner)

/-- An element in the scope around it, and the scope inside. -/
def resolveElement (scope : Scope) (name : QName)
    (attributes : List (QName × String)) : Option (Element × Scope) := do
  let (resolved, inner) ← resolveAttributes scope attributes
  let uri ← match name.nsPrefix with
    | some p => inner.uriOfPrefix p
    | none => some (inner.uri? none)
  return (⟨⟨uri.bind inner.prefixOf?, name.localName⟩, uri, resolved⟩, inner)

end Overlay.Xml
