/-
Words of a shell. A word is a row of pieces: characters, and places where
something is put in when a command runs. What a parameter is replaced with,
what a script prints and what is counted out stay texts here; they are read
when their turn comes.
-/
import Overlay.Text.Cut

namespace Overlay.CommandLine.Shell

open Text

/-- What becomes of the value of a parameter. -/
inductive ParameterUse
  | value
  /-- The number of its characters. -/
  | length
  /-- Another word in the place of a missing value; with `colon`, an empty
  value is missing too. -/
  | orElse (colon : Bool) (word : List Char)
  /-- The same, and the parameter has this value from then on. -/
  | orAssign (colon : Bool) (word : List Char)
  /-- Another word in the place of a value that is not missing. -/
  | ifThere (colon : Bool) (word : List Char)
  /-- The value without what matches a pattern at one of its ends. -/
  | cut (atEnd longest : Bool) (pattern : List Char)

/-- A piece of a word. -/
inductive WordPiece
  | literal (c : Char) (quoted : Bool)
  /-- Nothing, but enough to make a word. -/
  | emptyQuotes
  | parameter (name : String) (use : ParameterUse) (quoted : Bool)
  /-- What a script prints. -/
  | output (script : List Char) (quoted : Bool)
  /-- The value of an expression on integers. -/
  | integer (expression : List Char) (quoted : Bool)

/-- A word of a script. -/
abbrev Word := List WordPiece

/-- The text up to where the first of some brackets and quotes that stand open
is closed. -/
def enclosed :
    (closers : List Char) → List Char → Option (List Char × List Char)
  | [], rest => some ([], rest)
  | _ :: _, [] => none
  | top :: outer, '\\' :: c :: rest =>
    let closers := if top == '\'' && c == '\'' then outer else top :: outer
    (enclosed closers rest).map fun (taken, rest) => ('\\' :: c :: taken, rest)
  | top :: outer, c :: rest =>
    let dollar (cs : List Char) : Bool := top != '\'' && cs.head? == some '$'
    let closers :=
      if c == top then outer
      else if top == '\'' then top :: outer
      else if c == '(' && top != '"' then ')' :: top :: outer
      else if dollar [c] && rest.head? == some '\x7b' then top :: outer
      else if c == '\x7b' && top == '\x7d' then '\x7d' :: top :: outer
      else if top == '"' then top :: outer
      else if c == '"' || c == '\'' then c :: top :: outer
      else top :: outer
    (enclosed closers rest).map fun (taken, rest) =>
      (if closers.isEmpty then taken else c :: taken, rest)

/-- A character that may begin a name. -/
def startsVariable (c : Char) : Bool := isAsciiLetter c || c == '_'

/-- A character that may go on a name. -/
def continuesVariable (c : Char) : Bool := startsVariable c || isAsciiDigit c

/-- Whether a text is the name of a variable. -/
def isVariable : List Char → Bool
  | c :: rest => startsVariable c && rest.all continuesVariable
  | [] => false

/-- The name of a parameter that a text begins with: a variable, a number, or a
sign. -/
def parameterName? (single : Bool) (cs : List Char) :
    Option (String × List Char) :=
  match cs with
  | [] => none
  | c :: rest =>
    if startsVariable c then
      some (String.ofList (cs.takeWhile continuesVariable),
        cs.dropWhile continuesVariable)
    else if isAsciiDigit c then
      if single then some (String.ofList [c], rest)
      else
        some (String.ofList (cs.takeWhile isAsciiDigit),
          cs.dropWhile isAsciiDigit)
    else if "@*#?$!-".toList.contains c then some (String.ofList [c], rest)
    else none

/-- The parameter of a text in braces. -/
def bracedParameter? (quoted : Bool) (cs : List Char) : Option WordPiece :=
  match cs with
  | '#' :: c :: rest => do
    let (name, left) ← parameterName? false (c :: rest)
    guard left.isEmpty
    return .parameter name .length quoted
  | cs => do
    let (name, rest) ← parameterName? false cs
    let found (use : ParameterUse) : Option WordPiece :=
      some (.parameter name use quoted)
    match rest with
    | [] => found .value
    | ':' :: '-' :: word => found (.orElse true word)
    | '-' :: word => found (.orElse false word)
    | ':' :: '=' :: word => found (.orAssign true word)
    | '=' :: word => found (.orAssign false word)
    | ':' :: '+' :: word => found (.ifThere true word)
    | '+' :: word => found (.ifThere false word)
    | '#' :: '#' :: pattern => found (.cut false true pattern)
    | '#' :: pattern => found (.cut false false pattern)
    | '%' :: '%' :: pattern => found (.cut true true pattern)
    | '%' :: pattern => found (.cut true false pattern)
    | _ => none

/-- What a dollar sign begins, and the text after it. A sign that begins
nothing stands for itself. -/
def afterDollar (quoted : Bool) (cs : List Char) :
    Option (WordPiece × List Char) :=
  match cs with
  | '(' :: '(' :: rest => do
    let (inner, rest) ← enclosed [')'] rest
    let rest ← after? [')'] rest
    return (.integer inner quoted, rest)
  | '(' :: rest =>
    (enclosed [')'] rest).map fun (script, rest) =>
      (.output script quoted, rest)
  | '\x7b' :: rest => do
    let (inner, rest) ← enclosed ['\x7d'] rest
    return (← bracedParameter? quoted inner, rest)
  | cs =>
    match parameterName? true cs with
    | some (name, rest) => some (.parameter name .value quoted, rest)
    | none => some (.literal '$' quoted, cs)

/-- The script in old quotes, whose end comes first in the text, without the
backslashes in it. -/
def oldQuoted : List Char → Option (List Char × List Char)
  | [] => none
  | '\\' :: c :: rest =>
    let kept :=
      if c == '\\' || c == '$' || c.toNat == 96 then [c] else ['\\', c]
    (oldQuoted rest).map fun (script, rest) => (kept ++ script, rest)
  | c :: rest =>
    if c.toNat == 96 then some ([], rest)
    else (oldQuoted rest).map fun (script, rest) => (c :: script, rest)

/-- The pieces in double quotes up to their end, or those of the whole text if
it has no end of its own. -/
def quotedPieces (toEnd : Bool) :
    (fuel : Nat) → List Char → Option (Word × List Char)
  | 0, _ => none
  | _, [] => if toEnd then some ([], []) else none
  | fuel + 1, c :: rest => do
    let go (pieces : Word) (rest : List Char) : Option (Word × List Char) := do
      let (others, rest) ← quotedPieces toEnd fuel rest
      return (pieces ++ others, rest)
    if c == '"' && !toEnd then return ([], rest)
    else if c == '$' then
      let (piece, rest) ← afterDollar true rest
      go [piece] rest
    else if c.toNat == 96 then
      let (script, rest) ← oldQuoted rest
      go [.output script true] rest
    else if c == '\\' then
      match rest with
      | [] => go [.literal '\\' true] []
      | '\n' :: rest => go [] rest
      | d :: rest =>
        if d == '\\' || d == '$' || d.toNat == 96 || (d == '"' && !toEnd) then
          go [.literal d true] rest
        else go [.literal '\\' true, .literal d true] rest
    else go [.literal c true] rest

/-- Characters that end a word. -/
def endsWord (c : Char) : Bool := " \t\n;&|<>()".toList.contains c

/-- The pieces of a word up to its end. In the word of a parameter, no
character ends it. -/
def wordPieces (whole : Bool) :
    (fuel : Nat) → List Char → Option (Word × List Char)
  | 0, _ => none
  | _, [] => some ([], [])
  | fuel + 1, c :: rest => do
    let go (pieces : Word) (rest : List Char) : Option (Word × List Char) := do
      let (others, rest) ← wordPieces whole fuel rest
      return (pieces ++ others, rest)
    if endsWord c && !whole then return ([], c :: rest)
    else if c == '\'' then
      let (inner, rest) ← splitFirst? '\'' rest
      go (.emptyQuotes :: inner.map fun c => WordPiece.literal c true) rest
    else if c == '"' then
      let (inner, rest) ← quotedPieces false (rest.length + 1) rest
      go (.emptyQuotes :: inner) rest
    else if c == '$' then
      let (piece, rest) ← afterDollar false rest
      go [piece] rest
    else if c.toNat == 96 then
      let (script, rest) ← oldQuoted rest
      go [.output script false] rest
    else if c == '\\' then
      match rest with
      | [] => go [.literal '\\' true] []
      | '\n' :: rest => go [] rest
      | d :: rest => go [.literal d true] rest
    else go [.literal c false] rest

/-- The character of a piece that is not quoted. -/
def WordPiece.plain? : WordPiece → Option Char
  | .literal c false => some c
  | _ => none

/-- The text of a word that is not quoted and has nothing to expand. -/
def plainText? (w : Word) : Option String :=
  (w.mapM WordPiece.plain?).map String.ofList

/-- The character that a piece is written with. -/
def WordPiece.written? : WordPiece → Option Char
  | .literal c _ => some c
  | _ => none

/-- Whether a piece is quoted. -/
def WordPiece.isQuoted : WordPiece → Bool
  | .literal _ quoted | .parameter _ _ quoted | .output _ quoted
  | .integer _ quoted => quoted
  | .emptyQuotes => true

end Overlay.CommandLine.Shell
