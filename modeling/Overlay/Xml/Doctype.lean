/-
The front of a document: the declaration, the comments and processing
instructions before the root element, and the document type. Of the document
type only the entities it defines matter, and the comments and instructions in
it, which count as standing before the root.
-/
import Overlay.Xml.Markup

namespace Overlay.Xml

open Text

/-- The replacement texts of entities by name. The first definition of a name
counts. -/
abbrev Entities := List (String × List Char)

/-- What stands before the root element. -/
structure Front where
  entities : Entities
  /-- Comments and processing instructions, in order. -/
  tokens : List Token
  /-- The rest of the document. -/
  rest : List Char

namespace Scan

/-- White space inside the declaration, unless its end follows. -/
def declarationSpace (cs : List Char) : Option (List Char) :=
  match cs with
  | [] => some []
  | '?' :: '>' :: _ => some cs
  | _ => space cs

/-- An attribute of the declaration whose name begins with `key`. -/
def declared? (key : String) (cs : List Char) : Option (Option (List Char)) :=
  if (after? key.toList cs).isSome then
    (oneAttribute cs).map fun (_, rest) => some rest
  else some none

/-- The declaration at the start of a document, if there is one. It names a
version, and may then name an encoding and say whether the document stands
alone; the values do not matter. -/
def declaration (cs : List Char) : Option (List Char) :=
  match after? ['<', '?', 'x', 'm', 'l', ' '] cs with
  | none => some cs
  | some inside => do
    let cs ← declarationSpace (' ' :: inside)
    let cs ← (← declared? "version" cs)
    let cs ← declarationSpace cs
    let cs ← match ← declared? "encoding" cs with
      | some rest => declarationSpace rest
      | none => some cs
    let cs := (← declared? "standalone" cs).getD cs
    after? ['?', '>'] (skipSpace cs)

/-- Comments and processing instructions with white space between them. -/
def misc : (fuel : Nat) → List Char → Option (List Token × List Char)
  | 0, cs => some ([], cs)
  | fuel + 1, cs =>
    let cs := skipSpace cs
    if (after? ['<', '!', '-', '-'] cs).isSome
        || (after? ['<', '?'] cs).isSome then do
      let (t, rest) ← token cs
      let (ts, rest) ← misc fuel rest
      return (t :: ts, rest)
    else some ([], cs)

/-- A reference to something outside the document: `SYSTEM` and one text in
quotes, or `PUBLIC` and two. `none` inside means that there is no such
reference. -/
def externalId (cs : List Char) : Option (Option (List Char)) :=
  let literal (cs : List Char) : Option (List Char) := do
    let (_, rest) ← quoted (fun _ => false) (← space cs)
    return rest
  match after? "SYSTEM".toList cs, after? "PUBLIC".toList cs with
  | some cs, _ => (literal cs).map some
  | none, some cs => ((literal cs).bind literal).map some
  | none, none => some none

/-- What an entity is defined as: its replacement text, or something outside
the document, which stays unknown. -/
def entityDefinition (isParameter : Bool) (cs : List Char) :
    Option (Option (List Char) × List Char) :=
  match cs with
  | [] => none
  | c :: _ =>
    if c == '"' || c == '\'' then
      (quoted (fun _ => false) cs).map fun (value, rest) => (some value, rest)
    else do
      let rest ← (← externalId cs)
      match after? "NDATA".toList (skipSpace rest) with
      | some tail =>
        if isParameter then return (none, rest)
        let (_, rest) ← name (← space tail)
        return (none, rest)
      | none => return (none, rest)

/-- The definition of an entity, after `<!ENTITY`. -/
def entity (cs : List Char) :
    Option (Option (String × List Char) × List Char) := do
  let cs ← space cs
  let (isParameter, cs) ← match cs with
    | '%' :: rest => (space rest).map fun cs => (true, cs)
    | _ => some (false, cs)
  let (name, cs) ← name cs
  let (value, cs) ← entityDefinition isParameter (← space cs)
  let rest ← char '>' (skipSpace cs)
  return (value.map fun v => (name, v), rest)

/-- The declarations of the document type up to the bracket that ends them. -/
def declarations : (fuel : Nat) → List Char → Option Front
  | 0, _ => none
  | fuel + 1, cs =>
    let cs := skipSpace cs
    let starts (mark : String) : Option (List Char) := after? mark.toList cs
    match starts "<!ENTITY", starts "]" with
    | some rest, _ => do
      let (definition, rest) ← entity rest
      let front ← declarations fuel rest
      return { front with entities := definition.toList ++ front.entities }
    | none, some rest => do
      let rest ← char '>' (skipSpace rest)
      return { entities := [], tokens := [], rest := rest }
    | none, none =>
      if (starts "<!--").isSome || (starts "<?").isSome then do
        let (t, rest) ← token cs
        let front ← declarations fuel rest
        return { front with tokens := t :: front.tokens }
      else if (starts "<!ELEMENT").isSome || (starts "<!ATTLIST").isSome
          || (starts "<!NOTATION").isSome then do
        let rest ← char '>' (cs.dropWhile (· != '>'))
        declarations fuel rest
      else none

/-- The document type, after `<!DOCTYPE`. -/
def doctype (cs : List Char) : Option Front := do
  let (_, cs) ← name (← space cs)
  let cs := skipSpace cs
  let cs := skipSpace ((← externalId cs).getD cs)
  match cs with
  | '>' :: rest => return { entities := [], tokens := [], rest := rest }
  | '[' :: rest => declarations (rest.length + 1) rest
  | _ => none

/-- Everything before the root element. A byte order mark at the start is
skipped. -/
def front (cs : List Char) : Option Front := do
  let cs := match cs with
    | c :: rest => if c.toNat == 0xFEFF then rest else cs
    | [] => []
  let cs ← declaration cs
  let (before, cs) ← misc cs.length cs
  match after? "<!DOCTYPE".toList cs with
  | none => return { entities := [], tokens := before, rest := cs }
  | some cs =>
    let front ← doctype cs
    return { front with tokens := before ++ front.tokens }

end Scan

end Overlay.Xml
