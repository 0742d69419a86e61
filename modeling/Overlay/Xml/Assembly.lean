/-
Putting a document together. Tags, texts and comments come in one after the
other; an element is open until a tag with its name closes it, and everything
in between belongs to it. References to entities are answered as they come, and
what an entity holds is put where the reference stands.

The tags of an entity need not match each other. It may open an element that
the text around it closes, and it may close an element of the text around it,
though only after a tag that opens one stood in the entity itself. What stands
in an entity behind the tag that closes the element around the reference is not
looked at. A tag may lack its end where the entity ends; its attributes then go
to the next tag.
-/
import Overlay.Xml.Reference
import Overlay.Xml.Scope

namespace Overlay.Xml

open Text

/-- An element that is still open: its name as written, what it is, the
declarations that hold in it, and what was read inside it, in reverse. -/
structure Frame where
  name : QName
  element : Element
  scope : Scope
  inside : List Tree

/-- A document that is put together. -/
structure Assembly where
  /-- The open elements, innermost first. -/
  frames : List Frame := []
  /-- What was read outside of all elements, in reverse. -/
  outside : List Tree := []
  /-- The attributes of a tag without an end. -/
  pending : List (QName × String) := []
  /-- Whether a text that comes next belongs to the text before it. -/
  inText : Bool := false
  /-- Whether a tag that opens an element stood in the text at hand. -/
  sawTag : Bool := false

namespace Assembly

/-- The declarations that hold at this place. -/
def scope (a : Assembly) : Scope := (a.frames.head?.map (·.scope)).getD []

/-- Changes what was read inside the innermost open element, or outside of all.
-/
def modifyHere (f : List Tree → List Tree) (a : Assembly) : Assembly :=
  match a.frames with
  | top :: rest =>
    { a with frames := { top with inside := f top.inside } :: rest }
  | [] => { a with outside := f a.outside }

/-- Adds a tree that is no text. -/
def add (a : Assembly) (t : Tree) : Assembly :=
  { a.modifyHere (t :: ·) with inText := false }

/-- A text behind what was read; `joins` says whether it belongs to the text
that stands last. -/
def withText (joins : Bool) (s : String) : List Tree → List Tree
  | .text t :: rest =>
    if joins then .text (t ++ s) :: rest else .text s :: .text t :: rest
  | read => .text s :: read

/-- Adds a text. An empty one leaves everything as it is. -/
def addText (a : Assembly) (s : String) : Assembly :=
  if s == "" then a
  else { a.modifyHere (withText a.inText s) with inText := true }

/-- A tag that opens an element begins. Names with the prefix `xmlns` are
refused. -/
def beginTag (a : Assembly) (name : QName) : Option Assembly :=
  if name.nsPrefix == some "xmlns" then none
  else some { a with inText := false, sawTag := true }

/-- The element of a tag that has its end, and the scope inside. -/
def element (a : Assembly) (name : QName) (attributes : List (QName × String)) :
    Option (Element × Scope) :=
  resolveElement a.scope name (a.pending ++ attributes)

/-- Opens an element. -/
def openElement (a : Assembly) (name : QName)
    (attributes : List (QName × String)) : Option Assembly := do
  let a ← a.beginTag name
  let (e, inner) ← a.element name attributes
  return { a with frames := ⟨name, e, inner, []⟩ :: a.frames, pending := [] }

/-- Adds an element without content. -/
def addElement (a : Assembly) (name : QName)
    (attributes : List (QName × String)) : Option Assembly := do
  let a ← a.beginTag name
  let (e, _) ← a.element name attributes
  return { a.add (.element e []) with pending := [] }

/-- Begins a tag that has no end. -/
def addUnfinished (a : Assembly) (name : QName)
    (attributes : List (QName × String)) : Option Assembly := do
  let a ← a.beginTag name
  let pending := a.pending ++ attributes
  let _ ← ownBindings pending
  return { a with pending := pending }

/-- What was read inside an element or outside of all, in order. Texts of white
space only are left out. -/
def settled (read : List Tree) : List Tree :=
  read.reverse.filter fun
    | .text s => !isBlankText s
    | _ => true

/-- Closes the innermost open element, which must have this name. Attributes
that wait for a tag are resolved here and dropped. Where no element is open,
nothing is closed. -/
def closeElement (a : Assembly) (name : QName) : Option Assembly := do
  guard a.sawTag
  let _ ← resolveAttributes a.scope a.pending
  let a := { a with pending := [], inText := false }
  match a.frames with
  | [] => return a
  | top :: rest =>
    guard (top.name == name)
    return { a with frames := rest }.add
      (.element top.element (settled top.inside))

end Assembly

-- ===== tokens

/-- How references to entities are answered, in an attribute value and in
content. -/
structure Expander where
  value : String → Expansion (List Char)
  content : String → Assembly → Expansion Assembly

/-- Refuses every reference. -/
def Expander.refusing : Expander := ⟨fun _ => failure, fun _ _ => failure⟩

/-- Puts the content of an entity where a reference stands. -/
def Assembly.expand (place : Place) (expander : Expander) (name : String)
    (a : Assembly) : Expansion Assembly := do
  let b ← place.expand (expander.content name { a with sawTag := false })
  pure { b with sawTag := a.sawTag }

/-- Adds the pieces of a text; `run` holds what was read of it since the last
entity. -/
def Assembly.addChunks (place : Place) (expander : Expander) :
    Run → List Chunk → Assembly → Expansion Assembly
  | run, [], a => pure (a.addText run.text)
  | run, .plain c :: rest, a =>
    let next := if run.verbatim then { run.keep c with verbatim := false }
      else run.add c rest.isEmpty
    addChunks place expander next rest a
  | run, .char c :: rest, a =>
    let next := match place with
      | .document => { run.keep c with verbatim := true }
      | .entity => run.add c rest.isEmpty
    addChunks place expander next rest a
  | run, .entity name :: rest, a => do
    let b ← (a.addText run.text).expand place expander name
    addChunks place expander .empty rest b

/-- The values of the attributes of a tag. -/
def expandAttributes (place : Place) (expander : Expander)
    (raw : List RawAttribute) : Expansion (List (QName × String)) :=
  raw.mapM fun a => do
    let pieces ← (chunks a.value : Option (List Chunk))
    let value ← expandValue place expander.value pieces
    pure (a.name, String.ofList value)

/-- Takes one token into account. -/
def Assembly.step (place : Place) (expander : Expander) (a : Assembly) :
    Token → Expansion Assembly
  | .opening name raw => do
    let attributes ← expandAttributes place expander raw
    (a.openElement name attributes : Option Assembly)
  | .single name raw => do
    let attributes ← expandAttributes place expander raw
    (a.addElement name attributes : Option Assembly)
  | .unfinished name raw => do
    let attributes ← expandAttributes place expander raw
    (a.addUnfinished name attributes : Option Assembly)
  | .closing name => (a.closeElement name : Option Assembly)
  | .text raw => do
    let pieces ← (chunks raw : Option (List Chunk))
    a.addChunks place expander .empty pieces
  | .literal raw => pure (a.addText (sectionText .empty raw))
  | .comment s => pure (a.add (.comment s))
  | .instruction target data => pure (a.add (.instruction target data))

/-- Takes tokens into account, one after the other. -/
def Assembly.steps (place : Place) (expander : Expander) (a : Assembly)
    (tokens : List Token) : Expansion Assembly :=
  tokens.foldlM (Assembly.step place expander) a

/-- Answers references by these entities, at most `depth` levels deep. -/
def Entities.expander (entities : Entities) : (depth : Nat) → Expander
  | 0 => .refusing
  | depth + 1 =>
    let deeper := entities.expander depth
    { value := fun name => do
        let raw ← (entities.lookup name : Option (List Char))
        let pieces ← (chunks raw : Option (List Chunk))
        expandValue .entity deeper.value pieces
      content := fun name a => do
        let raw ← (entities.lookup name : Option (List Char))
        let (tokens, _) ← (Scan.content raw : Option (List Token × List Char))
        a.steps .entity deeper tokens }

end Overlay.Xml
