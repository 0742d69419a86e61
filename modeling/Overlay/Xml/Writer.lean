/-
Writing documents. The characters `<`, `>`, `&`, `'` and `"` of texts and
attribute values are escaped, and nothing else is. With indentation, every tag,
comment, processing instruction and declaration goes to a line of its own,
except at the very start and right after a text, where a line end would change
what is read back.
-/
import Overlay.Xml.Tree

namespace Overlay.Xml

/-- How a document is written. -/
structure WriteOptions where
  /-- Whether the declaration `<?xml …?>` comes first. -/
  declaration : Bool := true
  /-- Spaces for each level of nesting; none writes everything on one line. -/
  indent : Option Nat := some 2
  deriving DecidableEq, Repr

/-- Everything on one line, without declaration. -/
def WriteOptions.compact : WriteOptions :=
  { declaration := false, indent := none }

/-- A character of a text or of an attribute value. -/
def escapeChar : Char → List Char
  | '<' => "&lt;".toList
  | '>' => "&gt;".toList
  | '&' => "&amp;".toList
  | '\'' => "&apos;".toList
  | '"' => "&quot;".toList
  | c => [c]

/-- A text with its special characters escaped. -/
def escape (s : String) : List Char := s.toList.flatMap escapeChar

/-- A piece of a written document. -/
inductive Piece
  /-- Markup after which the nesting is `after` levels deep; it stands `level`
  levels deep itself. -/
  | markup (level : Nat) (text : List Char)
  | text (text : List Char)

/-- The attributes of a tag, each with a space before it. -/
def attributesText (as : List Attribute) : List Char :=
  as.flatMap fun a => ' ' :: a.name.qualified.toList
    ++ '=' :: '"' :: escape a.value ++ ['"']

/-- A tag up to its end, which is `>` or `/>`. -/
def tagText (e : Element) : List Char :=
  '<' :: e.name.qualified.toList ++ attributesText e.attributes

/-- The text of a processing instruction between its marks. -/
def instructionText (target : String) : Option String → List Char
  | some data => target.toList ++ ' ' :: data.toList
  | none => target.toList

mutual

/-- The pieces of a tree at a nesting level. -/
def Tree.pieces (level : Nat) : Tree → List Piece
  | .element e [] => [.markup level (tagText e ++ ['/', '>'])]
  | .element e children =>
    .markup level (tagText e ++ ['>']) :: piecesOfAll (level + 1) children
      ++ [.markup level ('<' :: '/' :: e.name.qualified.toList ++ ['>'])]
  | .text s => [.text (escape s)]
  | .comment s => [.markup level ("<!--".toList ++ s.toList ++ "-->".toList)]
  | .instruction t d =>
    [.markup level ('<' :: '?' :: instructionText t d ++ ['?', '>'])]

/-- The pieces of trees at a nesting level. -/
def piecesOfAll (level : Nat) : List Tree → List Piece
  | [] => []
  | t :: rest => t.pieces level ++ piecesOfAll level rest

end

/-- The pieces on one line, or each piece of markup on a line of its own;
`breaks` says whether a line may end here. -/
def layout (indent : Nat) (breaks : Bool) : List Piece → List Char
  | [] => []
  | .text t :: rest => t ++ layout indent false rest
  | .markup level t :: rest =>
    (if breaks && indent > 0 then
        '\n' :: List.replicate (level * indent) ' '
      else [])
      ++ t ++ layout indent true rest

/-- The declaration of a written document. -/
def declarationText : List Char :=
  "<?xml version=\"1.0\" encoding=\"UTF-8\"?>".toList

/-- The pieces of a whole document. -/
def Content.pieces (c : Content) (declaration : Bool) : List Piece :=
  (if declaration then [.markup 0 declarationText] else [])
    ++ piecesOfAll 0 (c.prolog ++ c.root :: c.epilog)

/-- Writes content. -/
def Content.write (c : Content) (options : WriteOptions) : List Char :=
  layout (options.indent.getD 0) false (c.pieces options.declaration)

/-- Writes a document. -/
def Document.write (doc : Document) (options : WriteOptions) : String :=
  String.ofList (doc.content.write options)

end Overlay.Xml
