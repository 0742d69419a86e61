/-
The parts that characters play in the breaks between clusters, words and
sentences. Each part is a set; the sets of one kind of break do not meet.
-/
import Overlay.Text.Property
import Overlay.Text.Property.Break
import Overlay.Text.Script

namespace Overlay.Text

open CharSet GeneralCategory Property

/-- The carriage return. -/
def carriageReturn : CharSet := single '\r'

/-- The line feed. -/
def lineFeed : CharSet := single '\n'

/-- The joiner that makes one sign of two. -/
def wideJoiner : CharSet := range 0x200D 0x200D

/-- Format characters that are no joiners and extend nothing. -/
def freeFormat : CharSet :=
  (set [.format] \ ofRuns Control.join) \ graphemeExtend

/-- Marks and modifiers that extend what stands before them. -/
def extendsWord : CharSet :=
  unions [graphemeExtend, set [.spacing], ofRuns Emoji.modifier] \ wideJoiner

namespace ClusterBreak

/-- Characters that go on the cluster before them. -/
def extend : CharSet := (graphemeExtend ∪ ofRuns Emoji.modifier) \ wideJoiner

/-- Signs that begin the cluster behind them. -/
def prepend : CharSet := ofRuns Break.prepend

/-- Controls, on both sides of which there is a break. -/
def control : CharSet :=
  unions [set [.line, .paragraph, .control, .format],
    set [.unassigned] ∩ ignorable]
    \ unions [carriageReturn, lineFeed, ofRuns Control.join,
      ofRuns Control.prepended, extend]

/-- Marks that take room and go on a cluster. -/
def spacingMark : CharSet :=
  ((set [.spacing] \ extend) \ ofRuns Break.apartMarks)
    ∪ ofRuns Break.clingingVowels

/-- Syllables, in the order of their vowels. -/
def syllables : CharSet := range 0xAC00 0xD7A3

/-- Syllables without a trailing consonant: one of each group of 28. -/
def openSyllables : CharSet := ofRuns [⟨0xAC00, 0xD788, 28⟩]

end ClusterBreak

namespace WordBreak

/-- Format characters inside of words. -/
def format : CharSet :=
  (freeFormat \ range 0x200B 0x200B) \ ofRuns Control.prepended

/-- Characters of words in katakana. -/
def katakana : CharSet :=
  Script.EastAsia.katakana.set ∪ ofRuns Break.katakanaWord

/-- Hebrew letters. -/
def hebrew : CharSet := Script.NearEast.hebrew.set ∩ set [.otherLetter]

/-- Letters of words between spaces. -/
def letter : CharSet :=
  (alphabetic ∪ ofRuns Break.wordSymbols)
    \ unions [ideographic, katakana, hebrew, Script.EastAsia.hiragana.set,
      extendsWord, ofRuns Break.unspacedLetters]

/-- The sign for Syriac abbreviations, which spans letters and not digits. -/
def abbreviation : CharSet := range 0x70F 0x70F

/-- Digits, the decimal mark of Arabic, and the signs that span digits. -/
def numeric : CharSet :=
  unions [set [.decimal], range 0x66B 0x66B,
    ofRuns Control.prepended \ abbreviation]

/-- Connectors of words. -/
def connector : CharSet := set [.connector] ∪ range 0x202F 0x202F

end WordBreak

namespace SentenceBreak

/-- Marks that go on what stands before them. -/
def extend : CharSet := unions [graphemeExtend, set [.spacing], wideJoiner]

/-- Format characters inside of sentences. -/
def format : CharSet := freeFormat \ ofRuns Control.prepended

/-- Letters that are small in the middle of a sentence. -/
def lower : CharSet := (lowercase \ graphemeExtend) \ ofRuns Case.untitled

/-- The capital forms of the letters without a title form. -/
def untitledCapitals : CharSet := range 0x1C90 0x1CBA ∪ range 0x1CBD 0x1CBF

/-- Letters that may begin a sentence. -/
def upper : CharSet := (set [.title] ∪ uppercase) \ untitledCapitals

/-- The other letters. -/
def letter : CharSet :=
  (alphabetic ∪ unions [range 0x5F3 0x5F3, WordBreak.abbreviation])
    \ unions [lower, upper, graphemeExtend, set [.spacing]]

/-- Digits, the marks between Arabic digits, and the signs that span digits. -/
def numeric : CharSet := WordBreak.numeric ∪ range 0x66C 0x66C

/-- Ends of paragraphs. -/
def separator : CharSet := range 0x85 0x85 ∪ set [.line, .paragraph]

/-- Spaces. -/
def space : CharSet := whiteSpace \ unions [separator, carriageReturn, lineFeed]

/-- Marks that end a sentence, other than dots. -/
def terminal : CharSet :=
  ofRuns Punctuation.sentenceTerminal \ ofRuns Break.sentenceDot

/-- Brackets and quotes. -/
def close : CharSet :=
  set [.opening, .closing, .initialQuote, .finalQuote]
    ∪ ofRuns Break.sentenceQuotes

end SentenceBreak

end Overlay.Text
