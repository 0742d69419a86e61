/-
The words of TOML texts: white space and comments, keys, strings, numbers and
times. A scanner takes the rest of a text and gives back what it read and the
text after it, or nothing if the text is malformed; a malformed text is not
looked at further.
-/
import Overlay.Calendar.Date
import Overlay.Decimal.Read
import Overlay.Json
import Overlay.Text.Cut

namespace Overlay.Toml

open Text Decimal

-- ===== white space, comments, line ends

/-- White space within a line. -/
def isSpace (c : Char) : Bool := c == ' ' || c == '\t'

/-- Drops white space within a line. -/
def skipSpace (cs : List Char) : List Char := cs.dropWhile isSpace

/-- The text after a line end, if one stands here. -/
def lineEnd? : List Char → Option (List Char)
  | '\n' :: cs => some cs
  | '\r' :: '\n' :: cs => some cs
  | _ => none

/-- A character that may stand in a comment or between single quotes: no
control character but the tab. -/
def isPrintable (c : Char) : Bool :=
  c == '\t' || (32 ≤ c.toNat && c.toNat != 127)

/-- The text after a comment, if one stands here. -/
def skipComment : List Char → List Char
  | '#' :: cs => cs.dropWhile isPrintable
  | cs => cs

/-- The text after what may follow a value or a header on its line. -/
def endOfLine? (cs : List Char) : Option (List Char) :=
  match skipComment (skipSpace cs) with
  | [] => some []
  | rest => lineEnd? rest

/-- Drops white space, comments and line ends. -/
def skipLines : (fuel : Nat) → List Char → List Char
  | 0, cs => cs
  | fuel + 1, cs =>
    let rest := skipComment (skipSpace cs)
    match lineEnd? rest with
    | some rest => skipLines fuel rest
    | none => rest

-- ===== strings

/-- A hexadecimal digit. -/
def isHexDigit (c : Char) : Bool :=
  isAsciiDigit c || ('a' ≤ asciiLower c && asciiLower c ≤ 'f')

/-- The character with a number of `count` hexadecimal digits. -/
def hexChar? (count : Nat) (cs : List Char) : Option (Char × List Char) :=
  let digits := cs.take count
  let n := ofDigits 16 digits
  if digits.length == count && digits.all isHexDigit && n.isValidChar then
    some (Char.ofNat n, cs.drop count)
  else none

/-- The character after a backslash. -/
def escape? : List Char → Option (Char × List Char)
  | 'b' :: cs => some (Char.ofNat 8, cs)
  | 'f' :: cs => some (Char.ofNat 12, cs)
  | 'n' :: cs => some ('\n', cs)
  | 'r' :: cs => some ('\r', cs)
  | 't' :: cs => some ('\t', cs)
  | '"' :: cs => some ('"', cs)
  | '\\' :: cs => some ('\\', cs)
  | 'u' :: cs => hexChar? 4 cs
  | 'U' :: cs => hexChar? 8 cs
  | _ => none

/-- A string in double quotes, the opening one read; `read` holds its
characters, last first. -/
def basicString :
    (fuel : Nat) → (read : List Char) → List Char → Option (String × List Char)
  | 0, _, _ => none
  | fuel + 1, read, cs =>
    match cs with
    | '"' :: rest => some (String.ofList read.reverse, rest)
    | '\\' :: rest => do
      let (c, rest) ← escape? rest
      basicString fuel (c :: read) rest
    | c :: rest =>
      if isPrintable c then basicString fuel (c :: read) rest else none
    | [] => none

/-- A string in single quotes, the opening one read. -/
def literalString (cs : List Char) : Option (String × List Char) :=
  let inside := cs.takeWhile fun c => isPrintable c && c != '\''
  match cs.drop inside.length with
  | '\'' :: rest => some (String.ofList inside, rest)
  | _ => none

/-- The end of a string in three quotes, where at least three quotes stand: up
to two more quotes before the last three belong to the string. -/
def closing (quote : Char) (cs : List Char) : (List Char) × List Char :=
  let extra := min ((cs.takeWhile (· == quote)).length - 3) 2
  (List.replicate extra quote, cs.drop (extra + 3))

/-- Drops white space and line ends. -/
def skipBlankLines : (fuel : Nat) → List Char → List Char
  | 0, cs => cs
  | fuel + 1, cs =>
    let rest := skipSpace cs
    match lineEnd? rest with
    | some rest => skipBlankLines fuel rest
    | none => rest

/-- The text after a backslash at the end of a line, and the white space and
line ends that follow. -/
def continuation? (cs : List Char) : Option (List Char) :=
  (lineEnd? (skipSpace cs)).map fun rest => skipBlankLines rest.length rest

/-- Whether three of a quote stand here. -/
def closes (quote : Char) : List Char → Bool
  | a :: b :: c :: _ => a == quote && b == quote && c == quote
  | _ => false

/-- A string of several lines, the opening quotes read; `escapes` says whether
a backslash means something in it. -/
def multiline (quote : Char) (escapes : Bool) :
    (fuel : Nat) → (read : List Char) → List Char → Option (String × List Char)
  | 0, _, _ => none
  | fuel + 1, read, cs =>
    if closes quote cs then
      let (extra, rest) := closing quote cs
      some (String.ofList (read.reverse ++ extra), rest)
    else
      match lineEnd? cs with
      | some rest => multiline quote escapes fuel ('\n' :: read) rest
      | none =>
        match cs with
        | '\\' :: rest =>
          if !escapes then multiline quote escapes fuel ('\\' :: read) rest
          else
            match continuation? rest with
            | some rest => multiline quote escapes fuel read rest
            | none => do
              let (c, rest) ← escape? rest
              multiline quote escapes fuel (c :: read) rest
        | c :: rest =>
          if isPrintable c then multiline quote escapes fuel (c :: read) rest
          else none
        | [] => none

/-- The text after a line end that stands right behind three opening quotes. -/
def dropLineEnd (cs : List Char) : List Char := (lineEnd? cs).getD cs

/-- A string of any of the four forms, if one stands here. -/
def string? (cs : List Char) : Option (String × List Char) :=
  let fuel := cs.length + 1
  match cs with
  | '"' :: '"' :: '"' :: rest => multiline '"' true fuel [] (dropLineEnd rest)
  | '\'' :: '\'' :: '\'' :: rest =>
    multiline '\'' false fuel [] (dropLineEnd rest)
  | '"' :: rest => basicString fuel [] rest
  | '\'' :: rest => literalString rest
  | _ => none

-- ===== keys

/-- A character of a key without quotes. -/
def isBare (c : Char) : Bool :=
  isAsciiLetter c || isAsciiDigit c || c == '-' || c == '_'

/-- One part of a key: a bare word, or a string of one line. -/
def keyPart? (cs : List Char) : Option (String × List Char) :=
  match cs with
  | '"' :: rest => basicString (cs.length + 1) [] rest
  | '\'' :: rest => literalString rest
  | cs =>
    let word := cs.takeWhile isBare
    if word.isEmpty then none
    else some (String.ofList word, cs.drop word.length)

/-- A key of parts with dots between them, and the white space around it;
`read` holds the parts before, last first. -/
def keyParts :
    (fuel : Nat) → (read : List String) → List Char →
      Option (List String × List Char)
  | 0, _, _ => none
  | fuel + 1, read, cs => do
    let (part, rest) ← keyPart? (skipSpace cs)
    match skipSpace rest with
    | '.' :: rest => keyParts fuel (part :: read) rest
    | rest => some ((part :: read).reverse, rest)

/-- How deep keys and values may nest. -/
def depthLimit : Nat := 80

/-- A key of fewer parts than the limit. -/
def key? (cs : List Char) : Option (List String × List Char) := do
  let (parts, rest) ← keyParts (cs.length + 1) [] cs
  guard (parts.length < depthLimit)
  some (parts, rest)

-- ===== numbers

/-- Digits, with single underscores between them; nothing, if what stands here
is no digit. An underscore without a digit behind it is malformed. -/
def digits? (isDigit : Char → Bool) : List Char → Option (List Char × List Char)
  | [] => some ([], [])
  | '_' :: c :: cs =>
    if isDigit c then (digits? isDigit cs).map fun (ds, rest) => (c :: ds, rest)
    else none
  | '_' :: [] => none
  | c :: cs =>
    if isDigit c then (digits? isDigit cs).map fun (ds, rest) => (c :: ds, rest)
    else some ([], c :: cs)

/-- At least one digit, the first of them no underscore. -/
def someDigits? (isDigit : Char → Bool) :
    List Char → Option (List Char × List Char)
  | c :: cs =>
    if isDigit c then (digits? isDigit cs).map fun (ds, rest) => (c :: ds, rest)
    else none
  | [] => none

/-- An integer of 64 bits, or nothing. -/
def word? (n : Int) : Option Int :=
  if -(twoTo 63) ≤ n && n < twoTo 63 then some n else none

/-- An integer in another base, after its mark. -/
def based? (base : Nat) (isDigit : Char → Bool) (cs : List Char) :
    Option (Json × List Char) := do
  let (ds, rest) ← someDigits? isDigit cs
  let n ← word? (ofDigits base ds)
  some (.integer n, rest)

/-- The places after a point, with the point. -/
def places? : List Char → Option (List Char × List Char)
  | '.' :: cs =>
    (someDigits? isAsciiDigit cs).map fun (ds, rest) => ('.' :: ds, rest)
  | cs => some ([], cs)

/-- An exponent, with its `e`. -/
def exponent? : List Char → Option (List Char × List Char)
  | [] => some ([], [])
  | e :: cs =>
    if e == 'e' || e == 'E' then
      let (sign, cs) := match cs with
        | '+' :: cs => (['+'], cs)
        | '-' :: cs => (['-'], cs)
        | cs => ([], cs)
      (someDigits? isAsciiDigit cs).map fun (ds, rest) =>
        (e :: sign ++ ds, rest)
    else some ([], e :: cs)

/-- A decimal integer or a number with a point or an exponent, after its sign.
A number too large for binary64 is malformed, unless it is negative. -/
def decimal? (negative : Bool) (cs : List Char) :
    Option (Json × List Char) := do
  let (whole, cs) ← match cs with
    | '0' :: cs => some (['0'], cs)
    | cs => someDigits? isAsciiDigit cs
  let (places, cs) ← places? cs
  let (e, rest) ← exponent? cs
  if places.isEmpty && e.isEmpty then
    let n : Int := ofDigits 10 whole
    let n ← word? (if negative then -n else n)
    some (.integer n, rest)
  else
    let x ← unsignedReal? negative (whole ++ places ++ e)
    guard !(x.isInf && !negative)
    some (if x.isInf then .null else .real x, rest)

/-- A number, which may also be infinite or not a number; those two have no
form as JSON. -/
def number? (cs : List Char) : Option (Json × List Char) :=
  let (negative, body) := splitSign cs
  match after? "inf".toList body, after? "nan".toList body with
  | some rest, _ => some (.null, rest)
  | _, some rest => some (.null, rest)
  | none, none =>
    match cs with
    | '0' :: 'x' :: rest => based? 16 isHexDigit rest
    | '0' :: 'o' :: rest => based? 8 (fun c => '0' ≤ c && c ≤ '7') rest
    | '0' :: 'b' :: rest => based? 2 (fun c => c == '0' || c == '1') rest
    | _ => decimal? negative body

-- ===== times

/-- A number of exactly `count` digits. -/
def fixed? (count : Nat) (cs : List Char) : Option (Nat × List Char) :=
  let digits := cs.take count
  if digits.length == count && digits.all isAsciiDigit then
    some (ofDigits 10 digits, cs.drop count)
  else none

/-- The text after a mark. -/
def mark? (c : Char) (cs : List Char) : Option (List Char) := after? [c] cs

/-- A date `2024-03-01`, as it is written. -/
def date? (cs : List Char) : Option (String × List Char) := do
  let (year, rest) ← fixed? 4 cs
  let (month, rest) ← fixed? 2 (← mark? '-' rest)
  let (day, rest) ← fixed? 2 (← mark? '-' rest)
  guard (Calendar.Date.isValid ⟨year, month, day⟩)
  some (String.ofList (cs.take 10), rest)

/-- The fraction of a second after its point: at most nine places, without
zeros at the end. -/
def fraction (digits : List Char) : String :=
  match dropEndWhile (· == '0') (digits.take 9) with
  | [] => ""
  | ds => String.ofList ('.' :: ds)

/-- A time `10:00:00.5`; a minute may have 61 seconds. -/
def time? (cs : List Char) : Option (String × List Char) := do
  let (hour, rest) ← fixed? 2 cs
  let (minute, rest) ← fixed? 2 (← mark? ':' rest)
  let (second, rest) ← fixed? 2 (← mark? ':' rest)
  guard (hour < 24 && minute < 60 && second ≤ 60)
  let whole := String.ofList (cs.take 8)
  match rest with
  | '.' :: after =>
    let digits := after.takeWhile isAsciiDigit
    if digits.isEmpty then some (whole, rest)
    else some (whole ++ fraction digits, after.drop digits.length)
  | _ => some (whole, rest)

/-- An offset from universal time, as it is written; a negative zero is written
as a positive one. -/
def offset? (cs : List Char) : Option (String × List Char) :=
  match cs with
  | 'Z' :: rest => some ("Z", rest)
  | 'z' :: rest => some ("Z", rest)
  | sign :: rest =>
    if sign == '+' || sign == '-' then do
      let (hour, rest) ← fixed? 2 rest
      let (minute, rest) ← fixed? 2 (← mark? ':' rest)
      guard (hour < 24 && minute < 60)
      let shown := if hour == 0 && minute == 0 then '+' else sign
      some (String.ofList (shown :: (cs.drop 1).take 5), rest)
    else some ("", cs)
  | [] => some ("", [])

/-- Whether a date, or a time of its own, begins here: four digits and a dash,
or two and a colon. -/
def beginsTime (cs : List Char) : Bool :=
  ((fixed? 4 cs).any fun (_, rest) => rest.head? == some '-')
    || ((fixed? 2 cs).any fun (n, rest) => n < 24 && rest.head? == some ':')

/-- Whether a time follows a date: a mark, an hour and a colon. -/
def timeFollows : List Char → Bool
  | c :: rest =>
    (c == 'T' || c == 't' || c == ' ')
      && (fixed? 2 rest).any fun (n, rest) => n < 24 && rest.head? == some ':'
  | [] => false

/-- A date, a date with a time, or a time, in the form in which it is shown. -/
def moment? (cs : List Char) : Option (String × List Char) :=
  if (fixed? 4 cs).isSome then do
    let (date, rest) ← date? cs
    if timeFollows rest then
      let (time, rest) ← time? (rest.drop 1)
      let (offset, rest) ← offset? rest
      some (date ++ "T" ++ time ++ offset, rest)
    else some (date, rest)
  else time? cs

end Overlay.Toml
