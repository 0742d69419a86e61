/-
Character classes. Each class is decided by comparison on ASCII and by a table
of runs beyond it, so that a fact about an ASCII character never has to look
into a table.

* `isBlank`: white space, as trimming and line splitting understand it.
* `isAlphabetic`, `isNumeric`, `isAlphanumeric`: letters and numbers in the
  wide sense, those of the newest edition of the character standard included.
* `isLetter`, `isDigit`, `isWord`: the classes `\p{L}`, `\d` and `\w` of
  regular expressions.
-/
import Overlay.Text.Category.Run
import Overlay.Text.Category.Letter
import Overlay.Text.Category.Mark
import Overlay.Text.Category.Number
import Overlay.Text.Category.Punctuation

namespace Overlay.Text

open Category

/-- A character of ASCII. -/
def isAscii (c : Char) : Bool := c.toNat < 0x80

/-- A digit `0` to `9`. -/
def isAsciiDigit (c : Char) : Bool := '0' ≤ c && c ≤ '9'

/-- A letter `A` to `Z` or `a` to `z`. -/
def isAsciiLetter (c : Char) : Bool :=
  ('a' ≤ c && c ≤ 'z') || ('A' ≤ c && c ≤ 'Z')

/-- White space: tab, line feed, vertical tab, form feed, carriage return,
space, and the white space characters beyond ASCII. -/
def isBlank (c : Char) : Bool :=
  if isAscii c then c == ' ' || (9 ≤ c.toNat && c.toNat ≤ 13)
  else covers Separator.whiteSpace c

/-- A letter beyond ASCII, of any of the five kinds. -/
def isWideLetter (c : Char) : Bool :=
  covers Letter.lower c || covers Letter.upper c || covers Letter.other c
    || covers Letter.modifier c || covers Letter.title c

/-- A letter (`\p{L}`). -/
def isLetter (c : Char) : Bool :=
  if isAscii c then isAsciiLetter c else isWideLetter c

/-- A letter, a number written as a letter, or another alphabetic character,
beyond ASCII. -/
def isWideAlphabetic (c : Char) : Bool :=
  isWideLetter c || covers Number.letterNumber c || covers Mark.alphabetic c

/-- A letter, a number written as a letter, or another alphabetic character. -/
def isAlphabetic (c : Char) : Bool :=
  if isAscii c then isAsciiLetter c
  else isWideAlphabetic c || covers Recent.alphabetic c

/-- A decimal digit of any script (`\d`). -/
def isDigit (c : Char) : Bool :=
  if isAscii c then isAsciiDigit c else covers Number.decimal c

/-- A digit or another number. -/
def isNumeric (c : Char) : Bool :=
  if isAscii c then isAsciiDigit c
  else
    covers Number.decimal c || covers Number.letterNumber c
      || covers Number.otherNumber c || covers Recent.numeric c

/-- A letter or number in the wide sense. -/
def isAlphanumeric (c : Char) : Bool := isAlphabetic c || isNumeric c

/-- A combining mark beyond ASCII. -/
def isWideMark (c : Char) : Bool :=
  covers Mark.nonspacing c || covers Mark.spacing c || covers Mark.enclosing c

/-- A word character (`\w`): alphabetic, a mark, a decimal digit, a connector
such as `_`, or one of the two joiners U+200C and U+200D. -/
def isWord (c : Char) : Bool :=
  if isAscii c then isAsciiLetter c || isAsciiDigit c || c == '_'
  else isWideAlphabetic c || isWideMark c || covers Number.decimal c
    || covers Punctuation.connector c || c.toNat == 0x200C || c.toNat == 0x200D

/-- The lower case of an ASCII capital, and every other character as it is. -/
def asciiLower (c : Char) : Char :=
  if 'A' ≤ c && c ≤ 'Z' then Char.ofNat (c.toNat + 32) else c

/-- ASCII lower case of a text. -/
def lowerAscii (s : String) : String := s.map asciiLower

end Overlay.Text
