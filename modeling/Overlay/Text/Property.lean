/-
Properties that a character has or has not, as sets. Most follow from the
general category and a short table of exceptions; the others are tables.
-/
import Overlay.Text.GeneralCategory
import Overlay.Text.Property.Case
import Overlay.Text.Property.Control
import Overlay.Text.Property.Emoji
import Overlay.Text.Property.Identifier
import Overlay.Text.Property.Ideograph
import Overlay.Text.Property.Mark
import Overlay.Text.Property.Punctuation

namespace Overlay.Text.Property

open CharSet GeneralCategory

-- ===== letters and case

/-- Letters, numbers written as letters, and the other alphabetic characters. -/
def alphabetic : CharSet :=
  set (.letterNumber :: letters) ∪ ofRuns Category.Mark.alphabetic

/-- Small letters and other small characters. -/
def lowercase : CharSet := set [.lower] ∪ ofRuns Case.otherLower

/-- Capital letters and other capitals. -/
def uppercase : CharSet := set [.upper] ∪ ofRuns Case.otherUpper

/-- Characters with case. -/
def cased : CharSet := unions [lowercase, uppercase, set [.title]]

/-- Characters that are passed over in the search for case. -/
def caseIgnorable : CharSet :=
  set [.nonspacing, .enclosing, .format, .modifier, .modifierSymbol]
    ∪ ofRuns Case.ignored

/-- Characters that fold to another one. -/
def folding : CharSet := ofCodes (foldPairs.map (·.1))

/-- Characters that another one folds to. -/
def foldImages : CharSet := ofCodes (foldPairs.map (·.2))

/-- Characters whose decomposition changes when its case is folded. -/
def changesWhenFolded : CharSet :=
  (folding \ ofRuns Case.decomposedAsFolded) ∪ ofRuns Case.foldedToSeveral

/-- Characters whose decomposition changes in small letters. -/
def changesWhenLowered : CharSet :=
  (folding \ ofRuns Case.foldedOnly) ∪ ofRuns Case.loweredOnly

/-- Characters whose decomposition changes in capitals. -/
def changesWhenRaised : CharSet :=
  (foldImages \ ofRuns Case.foldImageOnly) ∪ ofRuns Case.raisedOnly

/-- Characters whose decomposition changes as the first one of a title. -/
def changesWhenTitled : CharSet :=
  (changesWhenRaised \ (set [.title] ∪ ofRuns Case.untitled))
    ∪ ofRuns Case.capitalDigraphs

/-- Characters that some change of case changes. -/
def changesWhenMapped : CharSet :=
  unions [changesWhenLowered, changesWhenRaised, changesWhenTitled]

-- ===== identifiers

/-- The characters that patterns keep for themselves. -/
def ofPatterns : CharSet :=
  ofRuns Identifier.patternSyntax ∪ ofRuns Identifier.patternWhiteSpace

/-- Characters that may begin an identifier. -/
def identifierStart : CharSet :=
  (set (.letterNumber :: letters) ∪ ofRuns Identifier.otherStart) \ ofPatterns

/-- Characters that may go on an identifier. -/
def identifierContinue : CharSet :=
  unions [identifierStart, set [.nonspacing, .spacing, .decimal, .connector],
    ofRuns Identifier.otherContinue] \ ofPatterns

/-- Characters that may begin an identifier in every form. -/
def stableStart : CharSet := identifierStart \ ofRuns Identifier.unstableStart

/-- Characters that may go on an identifier in every form. -/
def stableContinue : CharSet :=
  identifierContinue \ ofRuns Identifier.unstableContinue

/-- Mathematical characters that may go on an identifier. -/
def mathContinue : CharSet :=
  ofRuns Identifier.mathContinue ∪ ofRuns Identifier.mathStart

-- ===== other properties

/-- White space. -/
def whiteSpace : CharSet :=
  CharSet.ofAscii isBlank ∪ ofRuns Category.Separator.whiteSpace

/-- Digits of base sixteen in ASCII. -/
def asciiHexDigit : CharSet :=
  unions [range 0x30 0x39, range 0x41 0x46, range 0x61 0x66]

/-- Digits of base sixteen, wide ones included. -/
def hexDigit : CharSet :=
  unions [asciiHexDigit, range 0xFF10 0xFF19, range 0xFF21 0xFF26,
    range 0xFF41 0xFF46]

/-- Characters of mathematics. -/
def math : CharSet := set [.math] ∪ ofRuns Punctuation.otherMath

/-- Ideographs. -/
def ideographic : CharSet := ofRuns Ideograph.unified ∪ ofRuns Ideograph.other

/-- Code points that are not shown if they are not understood. -/
def ignorable : CharSet :=
  unions [set [.format], ofRuns Control.variationSelector,
    ofRuns Control.otherIgnorable]
    \ ofRuns Control.visibleFormat

/-- Characters that extend the cluster before them. -/
def graphemeExtend : CharSet :=
  set [.nonspacing, .enclosing] ∪ ofRuns Mark.otherExtend

/-- Characters that stand by themselves: all that show and extend nothing. -/
def graphemeBase : CharSet :=
  (others ∪ unions [set [.line, .paragraph], graphemeExtend]).compl

/-- Word characters (`\w`). -/
def word : CharSet :=
  unions [alphabetic, set (.decimal :: .connector :: marks),
    ofRuns Control.join]

end Overlay.Text.Property
