/-
The sets of characters that regular expressions know by name: `[:name:]` in
brackets, and `\p{name}` or `\p{name=value}`.

Names are compared loosely: without case, spaces, underscores, hyphens and all
that is not ASCII, and without `is` at their start. A name alone is that of a
property, of a general category or of a script, in this order.
-/
import Overlay.Text.Age
import Overlay.Text.Break
import Overlay.Text.Cut

namespace Overlay.Regex

open Text Text.CharSet

-- ===== names

/-- The ASCII characters of a name that count, as small letters. -/
def plainChars (cs : List Char) : List Char :=
  (cs.filter fun c =>
    Text.isAscii c && c != ' ' && c != '_' && c != '-').map asciiLower

/-- A name without what does not matter in it. Of `isc` the first two letters
are kept: without them it would be taken for the category `c`. -/
def plainName (name : List Char) : String :=
  match name with
  | i :: s :: rest =>
    if asciiLower i == 'i' && asciiLower s == 's' then
      let plain := plainChars rest
      if plain == ['c'] then "isc" else String.ofList plain
    else String.ofList (plainChars name)
  | name => String.ofList (plainChars name)

/-- Whether a plain name is one of some proper names. -/
def isNamed (plain : String) (names : List String) : Bool :=
  names.any fun name => plainName name.toList == plain

-- ===== classes in brackets

/-- The ASCII set of a name in `[:name:]`. -/
def posix? (name : String) : Option CharSet :=
  let upper := range 0x41 0x5A
  let lower := range 0x61 0x7A
  let digits := range 0x30 0x39
  match name with
  | "alnum" => some (unions [digits, upper, lower])
  | "alpha" => some (upper ∪ lower)
  | "ascii" => some (range 0 0x7F)
  | "blank" => some (single '\t' ∪ single ' ')
  | "cntrl" => some (range 0 0x1F ∪ range 0x7F 0x7F)
  | "digit" => some digits
  | "graph" => some (range 0x21 0x7E)
  | "lower" => some lower
  | "print" => some (range 0x20 0x7E)
  | "punct" =>
    some (unions [range 0x21 0x2F, range 0x3A 0x40, range 0x5B 0x60,
      range 0x7B 0x7E])
  | "space" => some (range 9 0xD ∪ single ' ')
  | "upper" => some upper
  | "word" => some (unions [digits, upper, lower, single '_'])
  | "xdigit" => some Property.asciiHexDigit
  | _ => Option.none

-- ===== properties that hold or not

/-- The letters and the case of characters. -/
def letterProperty? (plain : String) : Option CharSet :=
  match plain with
  | "alpha" | "alphabetic" => some Property.alphabetic
  | "lower" | "lowercase" => some Property.lowercase
  | "upper" | "uppercase" => some Property.uppercase
  | "cased" => some Property.cased
  | "ci" | "caseignorable" => some Property.caseIgnorable
  | "cwcf" | "changeswhencasefolded" => some Property.changesWhenFolded
  | "cwcm" | "changeswhencasemapped" => some Property.changesWhenMapped
  | "cwl" | "changeswhenlowercased" => some Property.changesWhenLowered
  | "cwt" | "changeswhentitlecased" => some Property.changesWhenTitled
  | "cwu" | "changeswhenuppercased" => some Property.changesWhenRaised
  | "sd" | "softdotted" => some (ofRuns Property.Case.softDotted)
  | "oalpha" | "otheralphabetic" => some (ofRuns Category.Mark.alphabetic)
  | "olower" | "otherlowercase" => some (ofRuns Property.Case.otherLower)
  | "oupper" | "otheruppercase" => some (ofRuns Property.Case.otherUpper)
  | "ids" | "idstart" => some Property.identifierStart
  | "idc" | "idcontinue" => some Property.identifierContinue
  | "xids" | "xidstart" => some Property.stableStart
  | "xidc" | "xidcontinue" => some Property.stableContinue
  | "oids" | "otheridstart" => some (ofRuns Property.Identifier.otherStart)
  | "oidc" | "otheridcontinue" =>
    some (ofRuns Property.Identifier.otherContinue)
  | "idcompatmathstart" => some (ofRuns Property.Identifier.mathStart)
  | "idcompatmathcontinue" => some Property.mathContinue
  | "ahex" | "asciihexdigit" => some Property.asciiHexDigit
  | "hex" | "hexdigit" => some Property.hexDigit
  | "ideo" | "ideographic" => some Property.ideographic
  | "uideo" | "unifiedideograph" => some (ofRuns Property.Ideograph.unified)
  | "radical" => some (ofRuns Property.Ideograph.radical)
  | "idsu" | "idsunaryoperator" =>
    some (ofRuns Property.Ideograph.unaryOperator)
  | "idsb" | "idsbinaryoperator" =>
    some (ofRuns Property.Ideograph.binaryOperator)
  | "idst" | "idstrinaryoperator" =>
    some (ofRuns Property.Ideograph.trinaryOperator)
  | _ => Option.none

/-- Marks, signs, controls and emoji. -/
def signProperty? (plain : String) : Option CharSet :=
  match plain with
  | "space" | "wspace" | "whitespace" => some Property.whiteSpace
  | "dash" => some (ofRuns Property.Punctuation.dash)
  | "hyphen" => some (ofRuns Property.Punctuation.hyphen)
  | "qmark" | "quotationmark" => some (ofRuns Property.Punctuation.quotation)
  | "term" | "terminalpunctuation" =>
    some (ofRuns Property.Punctuation.terminal)
  | "sterm" | "sentenceterminal" =>
    some (ofRuns Property.Punctuation.sentenceTerminal)
  | "math" => some Property.math
  | "omath" | "othermath" => some (ofRuns Property.Punctuation.otherMath)
  | "dia" | "diacritic" => some (ofRuns Property.Mark.diacritic)
  | "ext" | "extender" => some (ofRuns Property.Mark.extender)
  | "grlink" | "graphemelink" => some (ofRuns Property.Mark.link)
  | "mcm" | "modifiercombiningmark" =>
    some (ofRuns Property.Mark.modifierCombining)
  | "grext" | "graphemeextend" => some Property.graphemeExtend
  | "ogrext" | "othergraphemeextend" => some (ofRuns Property.Mark.otherExtend)
  | "grbase" | "graphemebase" => some Property.graphemeBase
  | "bidic" | "bidicontrol" => some (ofRuns Property.Control.bidi)
  | "joinc" | "joincontrol" => some (ofRuns Property.Control.join)
  | "dep" | "deprecated" => some (ofRuns Property.Control.deprecated)
  | "di" | "defaultignorablecodepoint" => some Property.ignorable
  | "odi" | "otherdefaultignorablecodepoint" =>
    some (ofRuns Property.Control.otherIgnorable)
  | "vs" | "variationselector" =>
    some (ofRuns Property.Control.variationSelector)
  | "pcm" | "prependedconcatenationmark" =>
    some (ofRuns Property.Control.prepended)
  | "loe" | "logicalorderexception" =>
    some (ofRuns Property.Control.logicalException)
  | "nchar" | "noncharactercodepoint" =>
    some (ofRuns Property.Control.noncharacter)
  | "patsyn" | "patternsyntax" =>
    some (ofRuns Property.Identifier.patternSyntax)
  | "patws" | "patternwhitespace" =>
    some (ofRuns Property.Identifier.patternWhiteSpace)
  | "emoji" => some (ofRuns Property.Emoji.emoji)
  | "ecomp" | "emojicomponent" => some (ofRuns Property.Emoji.component)
  | "emod" | "emojimodifier" => some (ofRuns Property.Emoji.modifier)
  | "ebase" | "emojimodifierbase" => some (ofRuns Property.Emoji.modifierBase)
  | "epres" | "emojipresentation" => some (ofRuns Property.Emoji.presentation)
  | "extpict" | "extendedpictographic" =>
    some (ofRuns Property.Emoji.pictographic)
  | "ri" | "regionalindicator" => some (ofRuns Property.Emoji.regionalIndicator)
  | _ => Option.none

/-- A property that holds or not. -/
def binary? (plain : String) : Option CharSet :=
  letterProperty? plain <|> signProperty? plain

-- ===== properties with values

/-- General categories, and the names for all characters, for those that are
assigned and for ASCII. -/
def category? (plain : String) : Option CharSet :=
  let set := fun gs => some (GeneralCategory.set gs)
  match plain with
  | "any" => some all
  | "assigned" => some (GeneralCategory.set [.unassigned]).compl
  | "ascii" => some (range 0 0x7F)
  | "l" | "letter" => set GeneralCategory.letters
  | "lc" | "casedletter" => set [.upper, .lower, .title]
  | "lu" | "uppercaseletter" => set [.upper]
  | "ll" | "lowercaseletter" => set [.lower]
  | "lt" | "titlecaseletter" => set [.title]
  | "lm" | "modifierletter" => set [.modifier]
  | "lo" | "otherletter" => set [.otherLetter]
  | "m" | "mark" | "combiningmark" => set GeneralCategory.marks
  | "mn" | "nonspacingmark" => set [.nonspacing]
  | "mc" | "spacingmark" => set [.spacing]
  | "me" | "enclosingmark" => set [.enclosing]
  | "n" | "number" => set GeneralCategory.numbers
  | "nd" | "decimalnumber" | "digit" => set [.decimal]
  | "nl" | "letternumber" => set [.letterNumber]
  | "no" | "othernumber" => set [.otherNumber]
  | "p" | "punctuation" | "punct" => set GeneralCategory.punctuation
  | "pc" | "connectorpunctuation" => set [.connector]
  | "pd" | "dashpunctuation" => set [.dash]
  | "ps" | "openpunctuation" => set [.opening]
  | "pe" | "closepunctuation" => set [.closing]
  | "pi" | "initialpunctuation" => set [.initialQuote]
  | "pf" | "finalpunctuation" => set [.finalQuote]
  | "po" | "otherpunctuation" => set [.otherPunctuation]
  | "s" | "symbol" => set GeneralCategory.symbols
  | "sm" | "mathsymbol" => set [.math]
  | "sc" | "currencysymbol" => set [.currency]
  | "sk" | "modifiersymbol" => set [.modifierSymbol]
  | "so" | "othersymbol" => set [.otherSymbol]
  | "z" | "separator" => set GeneralCategory.separators
  | "zs" | "spaceseparator" => set [.space]
  | "zl" | "lineseparator" => set [.line]
  | "zp" | "paragraphseparator" => set [.paragraph]
  | "c" | "other" => some GeneralCategory.others
  | "cc" | "control" | "cntrl" => set [.control]
  | "cf" | "format" => set [.format]
  | "co" | "privateuse" => set [.privateUse]
  | "cn" | "unassigned" => set [.unassigned]
  | _ => Option.none

/-- The script of a name or code. -/
def script? (plain : String) : Option Script :=
  Script.all.find? fun s => isNamed plain (s.code :: s.name :: s.former)

/-- The characters of an edition: its number, or the same after `v` with the
point left out. -/
def age? (plain : String) : Option CharSet :=
  let found := Property.Age.editions.find? fun ((major, minor), _) =>
    plain == toString major ++ "." ++ toString minor
      || plain == "v" ++ toString major ++ toString minor
  found.bind fun ((major, minor), _) => Age.set? major minor

/-- The parts in breaks between clusters. -/
def clusterBreak? (plain : String) : Option CharSet :=
  match plain with
  | "cn" | "control" => some ClusterBreak.control
  | "cr" => some carriageReturn
  | "lf" => some lineFeed
  | "ex" | "extend" => some ClusterBreak.extend
  | "l" => some (ofRuns Property.Break.leading)
  | "v" => some (ofRuns Property.Break.vowel)
  | "t" => some (ofRuns Property.Break.trailing)
  | "lv" => some ClusterBreak.openSyllables
  | "lvt" => some (ClusterBreak.syllables \ ClusterBreak.openSyllables)
  | "pp" | "prepend" => some ClusterBreak.prepend
  | "ri" | "regionalindicator" => some (ofRuns Property.Emoji.regionalIndicator)
  | "sm" | "spacingmark" => some ClusterBreak.spacingMark
  | "zwj" => some wideJoiner
  | _ => Option.none

/-- The parts in breaks between words. -/
def wordBreak? (plain : String) : Option CharSet :=
  match plain with
  | "le" | "aletter" => some WordBreak.letter
  | "cr" => some carriageReturn
  | "lf" => some lineFeed
  | "nl" | "newline" =>
    some (unions [range 0xB 0xC, range 0x85 0x85, range 0x2028 0x2029])
  | "dq" | "doublequote" => some (single '"')
  | "sq" | "singlequote" => some (single '\'')
  | "extend" => some extendsWord
  | "ex" | "extendnumlet" => some WordBreak.connector
  | "fo" | "format" => some WordBreak.format
  | "hl" | "hebrewletter" => some WordBreak.hebrew
  | "ka" | "katakana" => some WordBreak.katakana
  | "ml" | "midletter" => some (ofRuns Property.Break.midLetter)
  | "mn" | "midnum" => some (ofRuns Property.Break.midNumber)
  | "mb" | "midnumlet" => some (ofRuns Property.Break.midBoth)
  | "nu" | "numeric" => some WordBreak.numeric
  | "ri" | "regionalindicator" => some (ofRuns Property.Emoji.regionalIndicator)
  | "wsegspace" => some (ofRuns Property.Break.wordSpace)
  | "zwj" => some wideJoiner
  | _ => Option.none

/-- The parts in breaks between sentences. -/
def sentenceBreak? (plain : String) : Option CharSet :=
  match plain with
  | "at" | "aterm" => some (ofRuns Property.Break.sentenceDot)
  | "st" | "sterm" => some SentenceBreak.terminal
  | "cr" => some carriageReturn
  | "lf" => some lineFeed
  | "cl" | "close" => some SentenceBreak.close
  | "ex" | "extend" => some SentenceBreak.extend
  | "fo" | "format" => some SentenceBreak.format
  | "lo" | "lower" => some SentenceBreak.lower
  | "up" | "upper" => some SentenceBreak.upper
  | "le" | "oletter" => some SentenceBreak.letter
  | "nu" | "numeric" => some SentenceBreak.numeric
  | "sc" | "scontinue" => some (ofRuns Property.Break.sentenceContinue)
  | "se" | "sep" => some SentenceBreak.separator
  | "sp" => some SentenceBreak.space
  | _ => Option.none

-- ===== the text between braces

/-- The set of a name alone. -/
def named? (name : List Char) : Option CharSet :=
  let plain := plainName name
  binary? plain <|> category? plain <|> (script? plain).map (·.set)

/-- The set of a property with a value. -/
def valued? (name value : List Char) : Option CharSet :=
  let plain := plainName value
  match plainName name with
  | "gc" | "generalcategory" => category? plain
  | "sc" | "script" => (script? plain).map (·.set)
  | "scx" | "scriptextensions" => (script? plain).map (·.extendedSet)
  | "age" => age? plain
  | "gcb" | "graphemeclusterbreak" => clusterBreak? plain
  | "wb" | "wordbreak" => wordBreak? plain
  | "sb" | "sentencebreak" => sentenceBreak? plain
  | _ => Option.none

/-- The set of what stands between the braces of `\p{…}`. The mark between name
and value may be `!=` as well, with no other sense. -/
def property? (text : List Char) : Option CharSet :=
  match splitAtText? ['!', '='] text <|> splitFirst? ':' text
      <|> splitFirst? '=' text with
  | some (name, value) => valued? name value
  | Option.none => named? text

end Overlay.Regex
