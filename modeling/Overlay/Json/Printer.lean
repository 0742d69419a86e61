/-
JSON texts: on one line without spaces (`compact`), or with a line for every
item and two spaces of indentation for every level (`pretty`). Quotes,
backslashes and control characters are escaped; every other character stands
for itself.
-/
import Overlay.Json

namespace Overlay.Json

/-- The digit of a number below sixteen, in lower case. -/
def hexDigit (n : Nat) : Char := Nat.digitChar (n % 16)

/-- A character inside quotes. -/
def escapeChar (c : Char) : List Char :=
  match c with
  | '"' => ['\\', '"']
  | '\\' => ['\\', '\\']
  | '\n' => ['\\', 'n']
  | '\r' => ['\\', 'r']
  | '\t' => ['\\', 't']
  | c =>
    if c.toNat == 8 then ['\\', 'b']
    else if c.toNat == 12 then ['\\', 'f']
    else if c.toNat < 32 then
      ['\\', 'u', '0', '0', hexDigit (c.toNat / 16), hexDigit c.toNat]
    else [c]

/-- A text in quotes. -/
def quote (s : String) : String :=
  String.ofList ('"' :: s.toList.flatMap escapeChar ++ ['"'])

/-- A binary64 number; what is not finite has no JSON form and becomes `null`.
-/
def realText (x : Float) : String :=
  match Decimal.decode x with
  | .finite negative m q => Decimal.exact negative m q
  | _ => "null"

/-- A value that is neither a list nor an object. -/
def scalarText : Json → String
  | .bool true => "true"
  | .bool false => "false"
  | .integer n => toString n
  | .real x => realText x
  | .text s => quote s
  | _ => "null"

mutual

/-- The value on one line, without spaces. -/
def compact : Json → String
  | .list items => "[" ++ compactItems items ++ "]"
  | .object fields => "\x7b" ++ compactFields fields ++ "\x7d"
  | .null => "null"
  | .bool b => scalarText (.bool b)
  | .integer n => scalarText (.integer n)
  | .real x => scalarText (.real x)
  | .text s => scalarText (.text s)

/-- Items with commas between them. -/
def compactItems : List Json → String
  | [] => ""
  | [v] => v.compact
  | v :: rest => v.compact ++ "," ++ compactItems rest

/-- Fields with commas between them. -/
def compactFields : Fields → String
  | [] => ""
  | [(k, v)] => quote k ++ ":" ++ v.compact
  | (k, v) :: rest => quote k ++ ":" ++ v.compact ++ "," ++ compactFields rest

end

/-- A new line at a nesting level. -/
def newLine (level : Nat) : String :=
  String.ofList ('\n' :: List.replicate (2 * level) ' ')

mutual

/-- The value at a nesting level, a line for every item. -/
def prettyAt (level : Nat) : Json → String
  | .list [] => "[]"
  | .list items => "[" ++ prettyItems (level + 1) items ++ newLine level ++ "]"
  | .object [] => "\x7b\x7d"
  | .object fields =>
    "\x7b" ++ prettyFields (level + 1) fields ++ newLine level ++ "\x7d"
  | .null => "null"
  | .bool b => scalarText (.bool b)
  | .integer n => scalarText (.integer n)
  | .real x => scalarText (.real x)
  | .text s => scalarText (.text s)

/-- Items, each on a line of its own. -/
def prettyItems (level : Nat) : List Json → String
  | [] => ""
  | [v] => newLine level ++ v.prettyAt level
  | v :: rest =>
    newLine level ++ v.prettyAt level ++ "," ++ prettyItems level rest

/-- Fields, each on a line of its own. -/
def prettyFields (level : Nat) : Fields → String
  | [] => ""
  | [(k, v)] => newLine level ++ quote k ++ ": " ++ v.prettyAt level
  | (k, v) :: rest =>
    newLine level ++ quote k ++ ": " ++ v.prettyAt level ++ ","
      ++ prettyFields level rest

end

/-- The value with indentation. -/
def pretty (v : Json) : String := v.prettyAt 0

end Overlay.Json
