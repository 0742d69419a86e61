/-
Reading JSON texts. The reader takes what the grammar of JSON allows and
nothing more: no comments, no trailing commas, no leading zeros, no lone halves
of a surrogate pair, at most 127 levels of nesting. It says only whether a text
can be read. A reading step answers a value and the text after it.

Numbers without point and exponent that fit 64 bits stay integers. Every other
number keeps as many digits as fit 64 bits, those before the point and then
those after it, rounds them to binary64 and multiplies or divides by the power
of ten, rounding again; this is not always the nearest number to the text, and
`-0` is a negative zero.
-/
import Overlay.Json
import Overlay.Text.Cut
import Overlay.Decimal.Read

namespace Overlay.Json

open Text Decimal

/-- White space between tokens. -/
def isSpace (c : Char) : Bool := c == ' ' || c == '\n' || c == '\t' || c == '\r'

/-- Skips white space. -/
def skipSpace (cs : List Char) : List Char := cs.dropWhile isSpace

-- ===== numbers

/-- A power of ten from `10 ^ 0` to `10 ^ 308`, as the nearest number. -/
def pow10 (e : Nat) : Float := nearest false (tenTo e) 1

/-- The number `f * 10 ^ e`, one rounding for each factor; `none` beyond the
largest number. -/
def scale (f : Float) : Nat → Int → Option Float
  | 0, _ => none
  | steps + 1, e =>
    if e.natAbs ≤ 308 then
      if e ≥ 0 then
        let v := f * pow10 e.natAbs
        if v.isInf then none else some v
      else some (f / pow10 e.natAbs)
    else if f == 0 then some f
    else if e ≥ 0 then none
    else scale (f / pow10 308) steps (e + 308)

/-- A number with further digits behind it, as far as it fits 64 bits, and the
number of digits that are left over. -/
def extend (n : Nat) : List Char → Nat × Nat
  | [] => (n, 0)
  | d :: ds =>
    let m := n * 10 + digitValue d
    if m < twoTo 64 then extend m ds else (n, ds.length + 1)

/-- The binary64 number with these digits before and after the point and this
exponent. Digits before the point that are left over count in the exponent; the
digits after the point follow those that were kept, as long as they fit. -/
def realOf (negative : Bool) (whole places : List Char) (e : Int) :
    Option Float :=
  let (n, left) := extend 0 whole
  let (n, unused) := extend n places
  let f := nearest false n 1
  let shift : Int := e + left - (places.length - unused : Nat)
  -- an exponent no digits can make up for: far below, every significand rounds
  -- to zero
  let value := if shift < -100000 then some 0 else scale f 400 shift
  value.map fun v => if negative then -v else v

/-- An exponent, if there is one: `e`, an optional sign, at least one digit. -/
def readExponent : List Char → Option ((Option Int) × List Char)
  | e :: cs =>
    if e == 'e' || e == 'E' then
      let (negative, rest) := splitSign cs
      let digits := rest.takeWhile isAsciiDigit
      if digits.isEmpty then none
      else
        let n : Int := ofDigits 10 digits
        some (some (if negative then -n else n), rest.dropWhile isAsciiDigit)
    else some (none, e :: cs)
  | [] => some (none, [])

/-- The places after a point, if there is one: at least one digit. -/
def readPlaces : List Char → Option ((List Char) × List Char)
  | '.' :: cs =>
    let places := cs.takeWhile isAsciiDigit
    if places.isEmpty then none else some (places, cs.dropWhile isAsciiDigit)
  | cs => some ([], cs)

/-- A number, its sign already read. -/
def readUnsigned (negative : Bool) (cs : List Char) :
    Option (Json × List Char) := do
  let whole := cs.takeWhile isAsciiDigit
  let leadingZero := whole.length > 1 && whole.head? == some '0'
  guard (!whole.isEmpty && !leadingZero)
  let (places, cs) ← readPlaces (cs.dropWhile isAsciiDigit)
  let (e, rest) ← readExponent cs
  let n := ofDigits 10 whole
  let isInteger := places.isEmpty && e.isNone
  if isInteger && !negative && n < twoTo 64 then return (.integer n, rest)
  if isInteger && negative && 0 < n && n ≤ twoTo 63 then
    return (.integer (-n), rest)
  let value ← realOf negative whole places (e.getD 0)
  return (.real value, rest)

-- ===== texts

/-- The value of four hexadecimal digits. -/
def readHex4 : List Char → Option (Nat × List Char)
  | a :: b :: c :: d :: rest =>
    let isHex (c : Char) : Bool :=
      isAsciiDigit c || ('a' ≤ asciiLower c && asciiLower c ≤ 'f')
    if [a, b, c, d].all isHex then some (ofDigits 16 [a, b, c, d], rest)
    else none
  | _ => none

/-- The character after `\u`; the high half of a pair must be followed by its
low half. -/
def readUnicodeEscape (cs : List Char) : Option (Char × List Char) := do
  let (n, rest) ← readHex4 cs
  if n < 0xD800 || 0xE000 ≤ n then return (Char.ofNat n, rest)
  guard (n < 0xDC00)
  match rest with
  | '\\' :: 'u' :: rest =>
    let (m, rest) ← readHex4 rest
    guard (0xDC00 ≤ m && m < 0xE000)
    return (Char.ofNat (0x10000 + (n - 0xD800) * 0x400 + (m - 0xDC00)), rest)
  | _ => none

/-- The character that a letter stands for after a backslash. -/
def escaped : Char → Option Char
  | '"' => some '"'
  | '\\' => some '\\'
  | '/' => some '/'
  | 'b' => some (Char.ofNat 8)
  | 'f' => some (Char.ofNat 12)
  | 'n' => some '\n'
  | 'r' => some '\r'
  | 't' => some '\t'
  | _ => none

/-- The characters up to the closing quote, in reverse order. -/
def readChars :
    (fuel : Nat) → (read : List Char) → List Char →
      Option ((List Char) × List Char)
  | 0, _, _ => none
  | fuel + 1, read, cs =>
    match cs with
    | '"' :: rest => some (read, rest)
    | '\\' :: 'u' :: rest => do
      let (c, rest) ← readUnicodeEscape rest
      readChars fuel (c :: read) rest
    | '\\' :: e :: rest => do
      let c ← escaped e
      readChars fuel (c :: read) rest
    | c :: rest =>
      if c.toNat < 32 then none else readChars fuel (c :: read) rest
    | [] => none

/-- A text, its opening quote already read. -/
def readText (cs : List Char) : Option (String × List Char) :=
  (readChars (cs.length + 1) [] cs).map fun (read, rest) =>
    (String.ofList read.reverse, rest)

-- ===== values

mutual

/-- A value after white space, with `depth` levels of nesting left. -/
def readValue : (fuel depth : Nat) → List Char → Option (Json × List Char)
  | 0, _, _ => none
  | fuel + 1, depth, cs =>
    match skipSpace cs with
    | '"' :: rest => (readText rest).map fun (s, rest) => (.text s, rest)
    | '-' :: rest => readUnsigned true rest
    | '[' :: rest =>
      if depth == 0 then none
      else
        match skipSpace rest with
        | ']' :: rest => some (.list [], rest)
        | rest => readItems fuel (depth - 1) [] rest
    | '{' :: rest =>
      if depth == 0 then none
      else
        match skipSpace rest with
        | '}' :: rest => some (.object [], rest)
        | rest => readFields fuel (depth - 1) [] rest
    | rest =>
      match after? "true".toList rest, after? "false".toList rest,
          after? "null".toList rest with
      | some rest, _, _ => some (.bool true, rest)
      | _, some rest, _ => some (.bool false, rest)
      | _, _, some rest => some (.null, rest)
      | none, none, none => readUnsigned false rest

/-- Items up to the closing bracket; `read` holds those before, last first. -/
def readItems :
    (fuel depth : Nat) → (read : List Json) → List Char →
      Option (Json × List Char)
  | 0, _, _, _ => none
  | fuel + 1, depth, read, cs => do
    let (v, rest) ← readValue fuel depth cs
    match skipSpace rest with
    | ',' :: rest => readItems fuel depth (v :: read) rest
    | ']' :: rest => some (.list (v :: read).reverse, rest)
    | _ => none

/-- Fields up to the closing brace. -/
def readFields :
    (fuel depth : Nat) → (read : Fields) → List Char → Option (Json × List Char)
  | 0, _, _, _ => none
  | fuel + 1, depth, read, cs => do
    match skipSpace cs with
    | '"' :: rest =>
      let (k, rest) ← readText rest
      match skipSpace rest with
      | ':' :: rest =>
        let (v, rest) ← readValue fuel depth rest
        let read := Table.insert k v read
        match skipSpace rest with
        | ',' :: rest => readFields fuel depth read rest
        | '}' :: rest => some (.object read, rest)
        | _ => none
      | _ => none
    | _ => none

end

/-- Reads a whole text as one value. -/
def read? (s : String) : Option Json :=
  let cs := s.toList
  match readValue (2 * cs.length + 2) 127 cs with
  | some (v, rest) => if (skipSpace rest).isEmpty then some v else none
  | none => none

end Overlay.Json
