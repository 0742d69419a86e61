/-
Snapshots of the values of a document: the texts of its elements and the values
of their attributes, under their paths and under their names. Conditions look
at a snapshot, so that what is removed from the document later does not change
them.

Of several values under one path, or under one name, the first one counts.
-/
import Overlay.Table
import Overlay.Xml.Document

namespace Overlay

open Text Xml

/-- The values of a document. -/
structure Snapshot where
  /-- All values with their paths, in document order. -/
  values : List (String × String) := []
  byPath : Table String := []
  byName : Table String := []
  deriving DecidableEq, Repr, Inhabited

namespace Snapshot

/-- A value found in a document: its path, its name and itself. -/
structure Found where
  path : String
  name : String
  value : String
  deriving DecidableEq, Repr

/-- The snapshot with a value found in a document. -/
def record (s : Snapshot) (f : Found) : Snapshot :=
  { values := s.values ++ [(f.path, f.value)]
    byPath := Table.insertNew f.path f.value s.byPath
    byName := Table.insertNew f.name f.value s.byName }

/-- The snapshot with a value put under a path, whatever it held there before.
-/
def insert (s : Snapshot) (path value : String) : Snapshot :=
  let path := if path.toList.head? == some '/' then path else "/" ++ path
  let name := match splitLast? '/' path.toList with
    | some (_, name) => String.ofList name
    | none => path
  { values := s.values ++ [(path, value)]
    byPath := Table.insert path value s.byPath
    byName := Table.insert name value s.byName }

/-- The text of an element at a path, if it has one. -/
def foundText (doc : Document) (id : Nat) (path : String) : List Found :=
  match doc.text? id with
  | some t => [⟨path, doc.localName id, trim t⟩]
  | none => []

/-- The attributes of an element at a path, but no declarations. -/
def foundAttributes (doc : Document) (id : Nat) (path : String) : List Found :=
  (doc.attributes id).filterMap fun a =>
    if a.name.isDeclaration then none
    else
      let suffix := "@" ++ a.name.qualified
      some ⟨path ++ suffix, doc.localName id ++ suffix, a.value⟩

/-- All values at and below an element. -/
def foundFrom (doc : Document) (above : String) (id : Nat) : List Found :=
  let path := above ++ "/" ++ doc.localName id
  foundText doc id path ++ foundAttributes doc id path
    ++ (doc.elementChildren id).flatMap fun c =>
      if _h : id < c ∧ c < doc.size then foundFrom doc path c else []
termination_by doc.size - id
decreasing_by omega

/-- The values of a document. -/
def capture (doc : Document) : Snapshot :=
  (foundFrom doc "" doc.root).foldl record {}

/-- The number of values. -/
def size (s : Snapshot) : Nat := s.values.length

/-- The names on the way to a field, and its attribute with the mark before it.
Names are parted by slashes or dots, of which there may be too many. -/
def splitField (field : String) : List String × String :=
  let cs := trimList field.toList
  let (element, suffix) := match splitFirst? '@' cs with
    | some (element, attr) => (element, "@" ++ String.ofList attr)
    | none => (cs, "")
  let names :=
    (splitWhere (fun c => c == '/' || c == '.') element).filter (!·.isEmpty)
  (names.map String.ofList, suffix)

/-- The value of a field: the one at its path; else, for more than one name,
the first one whose path ends with it; else the first one of its last name. -/
def get? (s : Snapshot) (field : String) : Option String :=
  let (names, suffix) := splitField field
  match names.getLast? with
  | none => none
  | some last =>
    let path := "/" ++ join "/" names ++ suffix
    let ending := if names.length > 1 then
        (s.values.find? fun v =>
          (before? path.toList v.1.toList).isSome).map (·.2)
      else none
    Table.find? path s.byPath <|> ending
      <|> Table.find? (last ++ suffix) s.byName

end Snapshot

end Overlay
