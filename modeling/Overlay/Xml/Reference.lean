/-
References and line ends. `&amp;` and `&#65;` stand for a character; other
names stand for the replacement text of an entity, which may hold references
again. Expansion nests at most ten deep, and one reference in the document sets
off at most 255 others.

Line ends are made uniform as text is read: in text, CR and CR LF become LF; in
attribute values, CR LF, CR, LF and tab become one space each. What a character
reference stands for is kept as it is, and so is the character right behind it;
inside the replacement text of an entity, however, such characters count as
text.
-/
import Overlay.Xml.Doctype
import Overlay.Decimal.Read

namespace Overlay.Xml

open Text Decimal

-- ===== references

/-- A piece of text between tags or quotes. -/
inductive Chunk
  /-- A character that stands for itself. -/
  | plain (c : Char)
  /-- A character given by a reference. -/
  | char (c : Char)
  /-- A reference to an entity. -/
  | entity (name : String)

/-- The character with this number; numbers that belong to no character give
U+FFFD. -/
def charOf (n : Nat) : Option Char :=
  if twoTo 32 ≤ n then none
  else
    let c := if n.isValidChar then Char.ofNat n else Char.ofNat 0xFFFD
    if isXmlChar c then some c else none

/-- The character that a predefined name stands for. -/
def predefined : String → Option Char
  | "quot" => some '"'
  | "amp" => some '&'
  | "apos" => some '\''
  | "lt" => some '<'
  | "gt" => some '>'
  | _ => none

/-- A reference, after its `&`. -/
def reference (cs : List Char) : Option (Chunk × List Char) := do
  match cs with
  | '#' :: cs =>
    let (base, isDigit, cs) := match cs with
      | 'x' :: rest =>
        (16, fun c : Char =>
          isAsciiDigit c || ('a' ≤ asciiLower c && asciiLower c ≤ 'f'), rest)
      | _ => (10, isAsciiDigit, cs)
    let digits := cs.takeWhile isDigit
    guard !digits.isEmpty
    let c ← charOf (ofDigits base digits)
    let rest ← Scan.char ';' (cs.dropWhile isDigit)
    return (.char c, rest)
  | _ =>
    let (name, cs) ← Scan.name cs
    let rest ← Scan.char ';' cs
    return ((predefined name).elim (.entity name) .char, rest)

/-- The pieces of a text. -/
def chunksWithin : (fuel : Nat) → List Char → Option (List Chunk)
  | _, [] => some []
  | 0, _ :: _ => none
  | fuel + 1, c :: cs =>
    if c == '&' then do
      let (chunk, rest) ← reference cs
      let chunks ← chunksWithin fuel rest
      return chunk :: chunks
    else (chunksWithin fuel cs).map (.plain c :: ·)

/-- The pieces of a text. -/
def chunks (cs : List Char) : Option (List Chunk) := chunksWithin cs.length cs

-- ===== expansion

/-- A computation that counts down the references that may still be expanded. -/
abbrev Expansion := StateT Nat Option

/-- Takes one reference off the count. -/
def spend : Expansion Unit := do
  match ← get with
  | 0 => failure
  | n + 1 => set n

/-- Where a text stands: in the document itself, or in the replacement text of
an entity. -/
inductive Place
  | document
  | entity

/-- Expands a reference. In the document every reference has a count of its
own; inside an entity all references draw on the count of the outermost one. -/
def Place.expand (place : Place) (inner : Expansion α) : Expansion α :=
  match place with
  | .document => fun left => (inner 255).map fun (x, _) => (x, left)
  | .entity => do spend; inner

-- ===== attribute values

/-- White space in an attribute value becomes a space. -/
def spaced (c : Char) : Char :=
  if c == '\n' || c == '\r' || c == '\t' then ' ' else c

/-- The value of an attribute, where `valueOf` answers references to entities.
The CR of a CR LF is dropped. A reference to `<` is refused inside an entity.
-/
def expandValue (place : Place) (valueOf : String → Expansion (List Char)) :
    List Chunk → Expansion (List Char)
  | [] => pure []
  | .plain c :: rest => do
    let tail ← expandValue place valueOf rest
    match c, rest with
    | '\r', .plain '\n' :: _ => pure tail
    | _, _ => pure (spaced c :: tail)
  | .char c :: rest => do
    let c ← match place with
      | .document => pure c
      | .entity => if c == '<' then failure else pure (spaced c)
    let tail ← expandValue place valueOf rest
    pure (c :: tail)
  | .entity name :: rest => do
    let inner ← place.expand (valueOf name)
    let tail ← expandValue place valueOf rest
    pure (inner ++ tail)

-- ===== text

/-- A run of text as it is read: its characters in reverse, and whether the
next character is kept as it is because a character reference stands before it.
-/
structure Run where
  read : List Char
  verbatim : Bool

/-- A run in which nothing was read. -/
def Run.empty : Run := ⟨[], false⟩

/-- Adds a character as it is. -/
def Run.keep (run : Run) (c : Char) : Run := { run with read := c :: run.read }

/-- Adds a character of text. A CR before it becomes an LF, and so does a CR
that ends the run. -/
def Run.add (run : Run) (c : Char) (isLast : Bool) : Run :=
  let settled (c : Char) : Char := if isLast && c == '\r' then '\n' else c
  match run.read with
  | '\r' :: before =>
    { run with read := if c == '\n' then '\n' :: before
      else settled c :: '\n' :: before }
  | read => { run with read := settled c :: read }

/-- The text of a run. -/
def Run.text (run : Run) : String := String.ofList run.read.reverse

/-- The text of a literal section. -/
def sectionText : Run → List Char → String
  | run, [] => run.text
  | run, c :: rest => sectionText (run.add c rest.isEmpty) rest

end Overlay.Xml
