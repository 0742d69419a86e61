/-
The general category of a character, one of 29 kinds. In ASCII it is decided by
comparison, and beyond by the tables; a character in none of the tables is
unassigned.
-/
import Overlay.Text.CharSet
import Overlay.Text.Category.Punctuation

namespace Overlay.Text

open Category

/-- A general category. -/
inductive GeneralCategory
  | upper | lower | title | modifier | otherLetter
  | nonspacing | spacing | enclosing
  | decimal | letterNumber | otherNumber
  | connector | dash | opening | closing | initialQuote | finalQuote
      | otherPunctuation
  | math | currency | modifierSymbol | otherSymbol
  | space | line | paragraph
  | control | format | privateUse | unassigned
  deriving DecidableEq, Repr

namespace GeneralCategory

/-- The category of an ASCII character. -/
def ofAscii (c : Char) : GeneralCategory :=
  if 'A' ≤ c && c ≤ 'Z' then .upper
  else if 'a' ≤ c && c ≤ 'z' then .lower
  else if isAsciiDigit c then .decimal
  else if c.toNat < 32 || c.toNat == 127 then .control
  else if c == ' ' then .space
  else if c == '_' then .connector
  else if c == '-' then .dash
  else if c == '(' || c == '[' || c == '{' then .opening
  else if c == ')' || c == ']' || c == '}' then .closing
  else if c == '$' then .currency
  else if c == '^' || c == '`' then .modifierSymbol
  else if c == '+' || c == '<' || c == '=' || c == '>' || c == '|'
      || c == '~' then .math
  else .otherPunctuation

/-- The table of a category beyond ASCII. -/
def table : GeneralCategory → List Run
  | .upper => Letter.upper
  | .lower => Letter.lower
  | .title => Letter.title
  | .modifier => Letter.modifier
  | .otherLetter => Letter.other
  | .nonspacing => Mark.nonspacing
  | .spacing => Mark.spacing
  | .enclosing => Mark.enclosing
  | .decimal => Number.decimal
  | .letterNumber => Number.letterNumber
  | .otherNumber => Number.otherNumber
  | .connector => Punctuation.connector
  | .dash => Punctuation.dash
  | .opening => Punctuation.opening
  | .closing => Punctuation.closing
  | .initialQuote => Punctuation.initialQuote
  | .finalQuote => Punctuation.finalQuote
  | .otherPunctuation => Punctuation.otherPunctuation
  | .math => Symbol.math
  | .currency => Symbol.currency
  | .modifierSymbol => Symbol.modifierSymbol
  | .otherSymbol => Symbol.otherSymbol
  | .space => Separator.space
  | .line => Separator.line
  | .paragraph => Separator.paragraph
  | .control => Separator.control
  | .format => Separator.format
  | .privateUse => Separator.privateUse
  | .unassigned => []

/-- The categories of letters. -/
def letters : List GeneralCategory :=
  [.upper, .lower, .title, .modifier, .otherLetter]

/-- The categories of marks. -/
def marks : List GeneralCategory := [.nonspacing, .spacing, .enclosing]

/-- The categories of numbers. -/
def numbers : List GeneralCategory := [.decimal, .letterNumber, .otherNumber]

/-- The categories of punctuation. -/
def punctuation : List GeneralCategory :=
  [.connector, .dash, .opening, .closing, .initialQuote, .finalQuote,
    .otherPunctuation]

/-- The categories of symbols. -/
def symbols : List GeneralCategory :=
  [.math, .currency, .modifierSymbol, .otherSymbol]

/-- The categories of separators. -/
def separators : List GeneralCategory := [.space, .line, .paragraph]

/-- The categories with a table. -/
def assigned : List GeneralCategory :=
  letters ++ marks ++ numbers ++ punctuation ++ symbols ++ separators
    ++ [.control, .format, .privateUse]

/-- The spans of the categories with a table. -/
def spans (gs : List GeneralCategory) : List Span :=
  (CharSet.ofAscii fun c => gs.contains (ofAscii c)).spans
    ++ gs.flatMap fun g => g.table.flatMap CharSet.spansOf

/-- The surrogates, which are no characters. -/
def surrogates : Span := ⟨0xD800, 0xDFFF⟩

/-- The characters of no category with a table. -/
def unassignedSet : CharSet :=
  (CharSet.ofSpans (surrogates :: spans assigned)).compl

/-- The characters of some categories. -/
def set (gs : List GeneralCategory) : CharSet :=
  CharSet.ofSpans
    (spans gs ++ if gs.contains .unassigned then unassignedSet.spans else [])

/-- Controls, format characters, private use and what is unassigned, along with
the surrogates, so that the span of private use reaches down to the unassigned
code points before the surrogates. -/
def others : CharSet :=
  CharSet.ofSpans
    (surrogates :: (set [.control, .format, .privateUse, .unassigned]).spans)

end GeneralCategory

end Overlay.Text
