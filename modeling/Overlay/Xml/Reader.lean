/-
Reading documents. The markup of a text is scanned into tokens, and the tokens
are put together: comments and processing instructions, one element, and
comments and processing instructions again. What comes out is the content of a
document; white space between elements is gone, and so is the document type.

A text either is a document or is not; the reader does not say why.
-/
import Overlay.Xml.Assembly

namespace Overlay.Xml

open Text

/-- The tokens of a document behind its front, up to the end of the text. -/
def Scan.body (cs : List Char) : Option (List Token) := do
  let (before, cs) ← misc cs.length cs
  let (root, cs) ← element (skipSpace cs)
  let (after, cs) ← misc cs.length cs
  guard (skipSpace cs).isEmpty
  return before ++ root ++ after

/-- How deep references may nest. -/
def expansionDepth : Nat := 10

/-- Whether a tree is an element. -/
def Tree.isElement : Tree → Bool
  | .element _ _ => true
  | _ => false

/-- The content with these trees outside of all elements. The first element is
the root; other elements do not count. -/
def Content.ofTrees (trees : List Tree) : Option Content := do
  let root ← trees.find? Tree.isElement
  let after := (trees.dropWhile (!·.isElement)).drop 1
  return {
    prolog := trees.takeWhile (!·.isElement)
    root := root
    epilog := after.filter (!·.isElement) }

/-- The content of a text, if it is a document. -/
def readContent (cs : List Char) : Option Content := do
  let front ← Scan.front cs
  let tokens := front.tokens ++ (← Scan.body front.rest)
  let expander := front.entities.expander expansionDepth
  let (a, _) ← (Assembly.steps .document expander {} tokens).run 0
  guard a.frames.isEmpty
  Content.ofTrees (Assembly.settled a.outside)

/-- The document that a text is. -/
def Document.parse (s : String) : Option Document :=
  (readContent s.toList).map Document.ofContent

end Overlay.Xml
