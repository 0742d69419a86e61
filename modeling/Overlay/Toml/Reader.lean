/-
TOML documents as JSON values. A document is a list of sections, each with a
header that names a table, and of keyed values within them; sections are built
into one tree in order. A table that was only implied by the names of others
may still be given a section of its own, once; a table that dotted keys made,
or that has a section already, may not be extended by a section or by dotted
keys from elsewhere.

Times become objects with a single field; numbers that are not finite become
null.
-/
import Overlay.Toml.Scan

namespace Overlay.Toml

open Text

-- ===== tables under construction

/-- How a table came to be. -/
inductive Origin
  /-- It has a section, or is the document itself. -/
  | explicit
  /-- The header of a table inside it was read. -/
  | implied
  /-- A key with dots went through it. -/
  | dotted
  deriving DecidableEq

/-- An entry of a table under construction. -/
inductive Item
  | value (v : Json)
  | table (origin : Origin) (items : List (String × Item))
  /-- A list of tables, the one that was begun last in front. -/
  | tables (elements : List (List (String × Item)))

/-- The entries of a table under construction. -/
abbrev Items := Table Item

/-- Goes down a path of tables, making those that are missing, and changes the
table at its end. By a dotted key only tables are entered that are not
explicit; a path of headers enters the last table of a list. -/
def descend (byKey : Bool) (f : Origin → Items → Option Items) :
    (path : List String) → Origin → Items → Option Items
  | [], origin, items => f origin items
  | key :: path, _, items => do
    let made : Origin := if byKey then .dotted else .implied
    match Table.find? key items with
    | none =>
      some (items ++ [(key, .table made (← descend byKey f path made []))])
    | some (.value _) => none
    | some (.table origin below) =>
      guard !(byKey && origin == .explicit)
      some (Table.insert key
        (.table origin (← descend byKey f path origin below)) items)
    | some (.tables []) => none
    | some (.tables (last :: before)) =>
      let last ← descend byKey f path .explicit last
      some (Table.insert key (.tables (last :: before)) items)

/-- Adds a value under a dotted key. Its last part must be new, in a table that
the key made or that the value stands in directly. -/
def addValue (key : List String) (value : Json) (origin : Origin)
    (items : Items) : Option Items :=
  let path := key.dropLast
  let add (origin : Origin) (items : Items) : Option Items := do
    let name ← key.getLast?
    guard (path.isEmpty || origin == .dotted)
    guard !(Table.has name items)
    some (items ++ [(name, .value value)])
  descend true add path origin items

mutual

/-- The value of an entry. -/
def Item.toJson : Item → Json
  | .value v => v
  | .table _ items => .object (fieldsOf items)
  | .tables elements => .list (elementsOf [] elements)

/-- The fields of a table. -/
def fieldsOf : List (String × Item) → List (String × Json)
  | [] => []
  | (k, item) :: rest => (k, item.toJson) :: fieldsOf rest

/-- The elements of a list of tables, first one first; `after` holds those that
come later. -/
def elementsOf (after : List Json) : List (List (String × Item)) → List Json
  | [] => after
  | items :: before => elementsOf (.object (fieldsOf items) :: after) before

end

-- ===== values

/-- A time as a JSON value. -/
def momentJson (shown : String) : Json :=
  .object [("$__toml_private_datetime", .text shown)]

/-- A value that is neither an array nor an inline table. -/
def scalar? (cs : List Char) : Option (Json × List Char) :=
  match cs with
  | '"' :: _ => (string? cs).map fun (s, rest) => (.text s, rest)
  | '\'' :: _ => (string? cs).map fun (s, rest) => (.text s, rest)
  | 't' :: 'r' :: 'u' :: 'e' :: rest => some (.bool true, rest)
  | 'f' :: 'a' :: 'l' :: 's' :: 'e' :: rest => some (.bool false, rest)
  | cs =>
    if beginsTime cs then (moment? cs).map fun (s, rest) => (momentJson s, rest)
    else number? cs

mutual

/-- A value, with `depth` levels of nesting left. -/
def value? : (fuel depth : Nat) → List Char → Option (Json × List Char)
  | 0, _, _ => none
  | fuel + 1, depth, cs =>
    match cs with
    | '[' :: rest =>
      if depth == 0 then none else array? fuel (depth - 1) [] rest
    | '{' :: rest =>
      if depth == 0 then none
      else
        match skipSpace rest with
        | '}' :: rest => some (.object [], rest)
        | rest => inlineTable? fuel (depth - 1) [] rest
    | cs => scalar? cs

/-- The elements of an array up to its closing bracket; a comma may follow the
last one. -/
def array? :
    (fuel depth : Nat) → (read : List Json) → List Char →
      Option (Json × List Char)
  | 0, _, _, _ => none
  | fuel + 1, depth, read, cs =>
    match skipLines cs.length cs with
    | ']' :: rest => some (.list read.reverse, rest)
    | cs => do
      let (v, rest) ← value? fuel depth cs
      match skipLines rest.length rest with
      | ',' :: rest => array? fuel depth (v :: read) rest
      | ']' :: rest => some (.list (v :: read).reverse, rest)
      | _ => none

/-- The entries of an inline table up to its closing brace, all on one line. -/
def inlineTable? :
    (fuel depth : Nat) → (read : Items) → List Char → Option (Json × List Char)
  | 0, _, _, _ => none
  | fuel + 1, depth, read, cs => do
    let (key, rest) ← key? cs
    let rest ← mark? '=' rest
    let (v, rest) ← value? fuel depth (skipSpace rest)
    let read ← addValue key v .explicit read
    match skipSpace rest with
    | ',' :: rest => inlineTable? fuel depth read rest
    | '}' :: rest => some (.object (fieldsOf read), rest)
    | _ => none

end

-- ===== documents

/-- A line of a document that is neither empty nor a comment. -/
inductive Line
  | value (key : List String) (v : Json)
  /-- The header `[a.b]`. -/
  | table (path : List String)
  /-- The header `[[a.b]]`. -/
  | element (path : List String)

/-- A header or a keyed value, to the end of its line. -/
def line? (cs : List Char) : Option (Line × List Char) :=
  match cs with
  | '[' :: '[' :: rest => do
    let (path, rest) ← key? rest
    let rest ← endOfLine? (← after? "]]".toList rest)
    some (.element path, rest)
  | '[' :: rest => do
    let (path, rest) ← key? rest
    let rest ← endOfLine? (← mark? ']' rest)
    some (.table path, rest)
  | cs => do
    let (key, rest) ← key? cs
    let rest ← mark? '=' rest
    let (v, rest) ← value? (2 * cs.length + 2) (depthLimit - 1) (skipSpace rest)
    some (.value key v, ← endOfLine? rest)

/-- The lines of a document; `read` holds those before, last first. -/
def lines : (fuel : Nat) → (read : List Line) → List Char → Option (List Line)
  | 0, _, _ => none
  | fuel + 1, read, cs =>
    match skipLines cs.length cs with
    | [] => some read.reverse
    | cs => do
      let (l, rest) ← line? cs
      lines fuel (l :: read) rest

/-- The header of a section. -/
inductive Header
  | document
  | table (path : List String)
  | element (path : List String)

/-- Adds the entries of a section to a table. -/
def addAll (entries : List (List String × Json)) (items : Items) :
    Option Items :=
  entries.foldlM (fun items e => addValue e.1 e.2 .explicit items) items

/-- Builds a section into the tree. A table of its own goes to the end of the
table around it, with what was implied of it before. -/
def addSection (root : Items) (header : Header)
    (entries : List (List String × Json)) : Option Items :=
  match header with
  | .document => addAll entries root
  | .table path =>
    let add (_ : Origin) (around : Items) : Option Items := do
      let name ← path.getLast?
      match Table.find? name around with
      | none =>
        some (around ++ [(name, .table .explicit (← addAll entries []))])
      | some (.table .implied below) =>
        some (Table.erase name around
          ++ [(name, .table .explicit (← addAll entries below))])
      | some _ => none
    descend false add path.dropLast .explicit root
  | .element path =>
    let add (_ : Origin) (around : Items) : Option Items := do
      let name ← path.getLast?
      let element ← addAll entries []
      match Table.find? name around with
      | none => some (around ++ [(name, .tables [element])])
      | some (.tables before) =>
        some (Table.insert name (.tables (element :: before)) around)
      | some _ => none
    descend false add path.dropLast .explicit root

/-- Builds lines into the tree; `entries` holds those of the section under
`header`, last first. -/
def build (root : Items) (header : Header)
    (entries : List (List String × Json)) : List Line → Option Items
  | [] => addSection root header entries.reverse
  | .value key v :: rest => build root header ((key, v) :: entries) rest
  | .table path :: rest =>
    do build (← addSection root header entries.reverse) (.table path) [] rest
  | .element path :: rest => do
    build (← addSection root header entries.reverse) (.element path) [] rest

/-- Reads a document as a JSON object. -/
def read? (s : String) : Option Json := do
  let cs := match s.toList with
    | c :: cs => if c.toNat == 0xFEFF then cs else c :: cs
    | [] => []
  let ls ← lines (cs.length + 1) [] cs
  let root ← build [] .document [] ls
  some (.object (fieldsOf root))

end Overlay.Toml
