/-
The markup of a document as a list of tokens: tags, runs of text, comments and
processing instructions. Tokens hold what is written; references are not
resolved and white space is not touched. Every scanning step answers what it
found and the text after it, or nothing if the text does not have the form.
-/
import Overlay.Xml.Name

namespace Overlay.Xml

open Text

/-- An attribute as written, its value still with references. -/
structure RawAttribute where
  name : QName
  value : List Char

/-- A piece of markup. -/
inductive Token
  | opening (name : QName) (attributes : List RawAttribute)
  /-- A tag that opens an element and closes it at once. -/
  | single (name : QName) (attributes : List RawAttribute)
  /-- A tag that has no end, because the text ends before. -/
  | unfinished (name : QName) (attributes : List RawAttribute)
  | closing (name : QName)
  | text (raw : List Char)
  /-- A section whose text holds no markup and no references. -/
  | literal (raw : List Char)
  | comment (text : String)
  | instruction (target : String) (data : Option String)

namespace Scan

/-- Skips white space. -/
def skipSpace (cs : List Char) : List Char := cs.dropWhile isXmlSpace

/-- Skips white space, of which there has to be some. -/
def space (cs : List Char) : Option (List Char) :=
  match cs with
  | c :: _ => if isXmlSpace c then some (skipSpace cs) else none
  | [] => none

/-- One given character. -/
def char (expected : Char) : List Char → Option (List Char)
  | c :: rest => if c == expected then some rest else none
  | [] => none

/-- Whether a part of a name begins as a name has to. -/
def startsName (part : List Char) : Bool :=
  (part.head?.map isNameStart).getD false

/-- A name in which colons have no meaning. -/
def name (cs : List Char) : Option (String × List Char) :=
  let run := cs.takeWhile isNameChar
  if startsName run then some (String.ofList run, cs.dropWhile isNameChar)
  else none

/-- A name with an optional prefix. An empty prefix counts as none; a second
colon is an error. -/
def qname (cs : List Char) : Option (QName × List Char) :=
  let rest := cs.dropWhile isNameChar
  match splitOn ':' (cs.takeWhile isNameChar) with
  | [l] => if startsName l then some (⟨none, String.ofList l⟩, rest) else none
  | [p, l] =>
    if !startsName l then none
    else if p.isEmpty then some (⟨none, String.ofList l⟩, rest)
    else if startsName p then
      some (⟨some (String.ofList p), String.ofList l⟩, rest)
    else none
  | _ => none

/-- A text in quotes of either kind, without the characters that `stop` holds
of. -/
def quoted (stop : Char → Bool) (cs : List Char) :
    Option (List Char × List Char) := do
  match cs with
  | q :: rest =>
    guard (q == '"' || q == '\'')
    let inside (c : Char) : Bool := c != q && !stop c
    let rest' ← char q (rest.dropWhile inside)
    return (rest.takeWhile inside, rest')
  | [] => none

/-- An attribute, with white space allowed around its equals sign. Its value
holds no `<`. -/
def oneAttribute (cs : List Char) : Option (RawAttribute × List Char) := do
  let (name, cs) ← qname cs
  let cs ← char '=' (skipSpace cs)
  let (value, cs) ← quoted (· == '<') (skipSpace cs)
  guard (value.all isXmlChar)
  return (⟨name, value⟩, cs)

/-- How a tag ends. -/
inductive TagEnd
  | opens
  /-- It closes its element at once. -/
  | closes
  /-- The text ends before it does. -/
  | missing

/-- The attributes of a tag up to its end. Every attribute has white space
before it, and no white space stands where the end is missing. -/
def attributes :
    (fuel : Nat) → List Char → Option (List RawAttribute × TagEnd × List Char)
  | 0, _ => none
  | _, [] => some ([], .missing, [])
  | fuel + 1, cs =>
    match skipSpace cs with
    | '/' :: '>' :: rest => some ([], .closes, rest)
    | '>' :: rest => some ([], .opens, rest)
    | _ => do
      let (a, cs) ← oneAttribute (← space cs)
      let (as, tagEnd, cs) ← attributes fuel cs
      return (a :: as, tagEnd, cs)

/-- The token of a tag. -/
def TagEnd.token (name : QName) (as : List RawAttribute) : TagEnd → Token
  | .opens => .opening name as
  | .closes => .single name as
  | .missing => .unfinished name as

/-- A tag that opens an element, after its `<`. -/
def tag (cs : List Char) : Option (Token × List Char) := do
  let (name, cs) ← qname cs
  let (as, tagEnd, cs) ← attributes (cs.length + 1) cs
  return (tagEnd.token name as, cs)

/-- A tag that closes an element, after its `</`. -/
def closing (cs : List Char) : Option (Token × List Char) := do
  let (name, cs) ← qname cs
  let cs ← char '>' (skipSpace cs)
  return (.closing name, cs)

/-- A comment, after its `<!--`. Two hyphens stand only at its end, and no
third before them. -/
def comment (cs : List Char) : Option (Token × List Char) := do
  let (text, rest) ← splitAtText? ['-', '-', '>'] cs
  guard (text.all isXmlChar && !contains ['-', '-'] text
    && text.getLast? != some '-')
  return (.comment (String.ofList text), rest)

/-- A processing instruction, after its `<?`. The target `xml` followed by a
space belongs to the declaration at the very start of a document. -/
def instruction (cs : List Char) : Option (Token × List Char) := do
  guard (after? ['x', 'm', 'l', ' '] cs).isNone
  let (target, cs) ← name cs
  let (data, rest) ← splitAtText? ['?', '>'] (skipSpace cs)
  guard (data.all isXmlChar)
  return (.instruction target
    (if data.isEmpty then none else some (String.ofList data)), rest)

/-- A section of literal text, after its opening mark. -/
def literalSection (cs : List Char) : Option (Token × List Char) := do
  let (text, rest) ← splitAtText? [']', ']', '>'] cs
  guard (text.all isXmlChar)
  return (.literal text, rest)

/-- A run of text up to the next tag. It does not hold the mark that ends a
literal section. -/
def text (cs : List Char) : Option (Token × List Char) := do
  let run := cs.takeWhile (· != '<')
  guard (run.all isXmlChar && !contains [']', ']', '>'] run)
  return (.text run, cs.dropWhile (· != '<'))

/-- The mark that opens a section of literal text, after its `<!`. -/
def sectionMark : List Char := ['[', 'C', 'D', 'A', 'T', 'A', '[']

/-- The token at the start of a text. -/
def token : List Char → Option (Token × List Char)
  | '<' :: '!' :: cs =>
    match after? ['-', '-'] cs, after? sectionMark cs with
    | some cs, _ => comment cs
    | none, some cs => literalSection cs
    | none, none => none
  | '<' :: '?' :: cs => instruction cs
  | '<' :: '/' :: cs => closing cs
  | '<' :: cs => tag cs
  | cs => text cs

/-- The tokens of content, up to the tag that closes the element around it, or
up to the end of the text; `depth` elements are open inside. Every token takes
at least one character, so that a text has no more tokens than characters. -/
def contentWithin :
    (fuel depth : Nat) → List Char → Option (List Token × List Char)
  | _, _, [] => some ([], [])
  | 0, _, _ :: _ => none
  | fuel + 1, depth, cs => do
    let (t, rest) ← token cs
    let more (depth : Nat) : Option (List Token × List Char) := do
      let (ts, rest) ← contentWithin fuel depth rest
      return (t :: ts, rest)
    match t, depth with
    | .closing _, 0 => return ([t], rest)
    | .closing _, depth + 1 => more depth
    | .opening _ _, depth => more (depth + 1)
    | _, depth => more depth

/-- The tokens of content, and what stands behind the tag that closes the
element around it. -/
def content (cs : List Char) : Option (List Token × List Char) :=
  contentWithin cs.length 0 cs

/-- The tokens of the element at the start of a text, if one stands there. -/
def element (cs : List Char) : Option (List Token × List Char) :=
  match cs with
  | '<' :: cs => do
    let (t, rest) ← tag cs
    match t with
    | .opening _ _ => do
      let (ts, rest) ← content rest
      return (t :: ts, rest)
    | t => return ([t], rest)
  | cs => some ([], cs)

end Scan

end Overlay.Xml
