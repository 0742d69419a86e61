/-
Names and characters of XML. Two grammars of names are in use: the grammar of
the standard, by which documents are read (`isNameStart`, `isNameChar`), and a
wider one, by which names that are put into a document are checked
(`isValidName`).
-/
import Overlay.Text.Cut

namespace Overlay.Xml

open Text

/-- The URI that the prefix `xml` stands for. -/
def xmlUri : String := "http://www.w3.org/XML/1998/namespace"

/-- The URI of namespace declarations themselves, which no prefix may stand
for. -/
def xmlnsUri : String := "http://www.w3.org/2000/xmlns/"

/-- A name with an optional prefix. -/
structure QName where
  nsPrefix : Option String
  localName : String
  deriving DecidableEq, Repr, Inhabited

/-- The name as it is written, `prefix:local` or `local`. -/
def QName.qualified (n : QName) : String :=
  match n.nsPrefix with
  | some p => p ++ ":" ++ n.localName
  | none => n.localName

/-- Splits a name at its first colon, if there is something on both sides of
it. -/
def QName.parse (name : String) : QName :=
  match splitFirst? ':' name.toList with
  | some (p, l) =>
    if p.isEmpty || l.isEmpty then ⟨none, name⟩
    else ⟨some (String.ofList p), String.ofList l⟩
  | none => ⟨none, name⟩

/-- A name of a namespace declaration: `xmlns`, or `xmlns` as a prefix. -/
def QName.isDeclaration (n : QName) : Bool :=
  match n.nsPrefix with
  | some p => p == "xmlns"
  | none => n.localName == "xmlns"

/-- The name of the attribute that declares a prefix, or the default namespace.
-/
def QName.declaring : Option String → QName
  | some p => ⟨some "xmlns", p⟩
  | none => ⟨none, "xmlns"⟩

-- ===== characters

/-- The characters a document may contain. -/
def isXmlChar (c : Char) : Bool :=
  let n := c.toNat
  n == 0x9 || n == 0xA || n == 0xD || (0x20 ≤ n && n ≤ 0xD7FF)
    || (0xE000 ≤ n && n ≤ 0xFFFD)
    || 0x10000 ≤ n

/-- White space between the parts of a tag. -/
def isXmlSpace (c : Char) : Bool :=
  c == ' ' || c == '\t' || c == '\n' || c == '\r'

/-- The first character that may not stand in a document. -/
def firstForbidden? (s : String) : Option Char := s.toList.find? (!isXmlChar ·)

/-- A code point as `U+XXXX`, with at least four digits. -/
def codePoint (c : Char) : String :=
  let digits := (Nat.toDigits 16 c.toNat).map Char.toUpper
  String.ofList ('U' :: '+' :: List.replicate (4 - digits.length) '0' ++ digits)

/-- A character that may begin a name in a document that is read. -/
def isNameStart (c : Char) : Bool :=
  let n := c.toNat
  if n ≤ 0x80 then isAsciiLetter c || c == ':' || c == '_'
  else
    (0xC0 ≤ n && n ≤ 0xD6) || (0xD8 ≤ n && n ≤ 0xF6) || (0xF8 ≤ n && n ≤ 0x2FF)
      || (0x370 ≤ n && n ≤ 0x37D) || (0x37F ≤ n && n ≤ 0x1FFF)
      || (0x200C ≤ n && n ≤ 0x200D)
      || (0x2070 ≤ n && n ≤ 0x218F) || (0x2C00 ≤ n && n ≤ 0x2FEF)
      || (0x3001 ≤ n && n ≤ 0xD7FF)
      || (0xF900 ≤ n && n ≤ 0xFDCF) || (0xFDF0 ≤ n && n ≤ 0xFFFD)
      || (0x10000 ≤ n && n ≤ 0xEFFFF)

/-- A character that may stand in a name in a document that is read. -/
def isNameChar (c : Char) : Bool :=
  let n := c.toNat
  if n ≤ 0x80 then
    isAsciiLetter c || isAsciiDigit c || c == ':' || c == '_'
      || c == '-' || c == '.'
  else
    isNameStart c || n == 0xB7 || (0x300 ≤ n && n ≤ 0x36F)
      || (0x203F ≤ n && n ≤ 0x2040)

/-- A name that may be put into a document: a letter, `_` or `:`, and then
letters, numbers, `_`, `:`, `-`, `.` and any character beyond ASCII. -/
def isValidName (name : String) : Bool :=
  match name.toList with
  | [] => false
  | first :: rest =>
    (isAlphabetic first || first == '_' || first == ':')
      && rest.all fun c =>
        isAlphanumeric c || c == '_' || c == ':' || c == '-' || c == '.'
          || !isAscii c

end Overlay.Xml
