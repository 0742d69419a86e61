/-
Formulas of computed fields:

* `concat(First, ' ', Last)` runs texts together;
* `sum(a, b, 2)` adds up what is a number;
* `Price + Tax`, `Total - 5` add and subtract;
* `Start + 2h30m`, `Start - 45m` shift a date or a time.

Every other text is the name of a field, and its value is the value of that
field.
-/
import Overlay.Calendar.Stamp
import Overlay.Config
import Overlay.Decimal.Written

namespace Overlay

open Text

/-- An operand of a formula. -/
inductive Operand
  | field (name : String)
  | literal (text : String)
  | number (value : Float)
  deriving Inhabited

/-- A formula. -/
inductive Formula
  | concat (operands : List Operand)
  | sum (operands : List Operand)
  | add (left : String) (right : Operand)
  | sub (left : String) (right : Operand)
  | shift (field : String) (minutes : Int)
  | lookup (field : String)
  deriving Inhabited

namespace Formula

-- ===== tokens

/-- A token of a formula. -/
inductive Token
  | name (text : String)
  | literal (text : String)
  | number (digits : List Char)
  /-- A span of time in minutes. -/
  | span (minutes : Nat)
  | opening
  | closing
  | comma
  | plus
  | minus
  deriving DecidableEq

/-- A character that may begin a name. -/
def startsName (c : Char) : Bool := isAlphabetic c || c == '_'

/-- A character that may stand in a name. -/
def continuesName (c : Char) : Bool := isAlphanumeric c || c == '_' || c == '.'

/-- The bound of the minutes of a span. -/
def spanBound : Nat := twoTo 63

/-- Hours, minutes, or hours and minutes, in minutes, and the text after them.
After the unit of minutes no other part may follow, and after hours only
minutes. -/
def span? (cs : List Char) : Option (Nat × List Char) := do
  let digits := cs.takeWhile isAsciiDigit
  let n ← (Decimal.natural? digits).filter (· < spanBound)
  match cs.drop digits.length with
  | 'h' :: rest =>
    guard (n * 60 < spanBound)
    let more := rest.takeWhile isAsciiDigit
    if more.isEmpty then some (n * 60, rest)
    else
      let m ← (Decimal.natural? more).filter (· < spanBound)
      match rest.drop more.length with
      | 'm' :: rest =>
        guard (n * 60 + m < spanBound && !rest.head?.any isAsciiDigit)
        some (n * 60 + m, rest)
      | _ => none
  | 'm' :: rest => if rest.head?.any isAsciiDigit then none else some (n, rest)
  | _ => none

/-- A number or a span of time. -/
def numeral? (cs : List Char) : Option (Token × List Char) :=
  let digits := cs.takeWhile fun c => isAsciiDigit c || c == '.'
  let rest := cs.drop digits.length
  if rest.head? == some 'h' || rest.head? == some 'm' then
    (span? cs).map fun (n, rest) => (.span n, rest)
  else some (.number digits, rest)

/-- The text up to the next quote, and the text after it. -/
def quoted? (quote : Char) (cs : List Char) : Option (Token × List Char) :=
  (splitFirst? quote cs).map fun (inside, rest) =>
    (.literal (String.ofList inside), rest)

/-- The token of a mark. -/
def mark? : Char → Option Token
  | '(' => some .opening
  | ')' => some .closing
  | ',' => some .comma
  | '+' => some .plus
  | '-' => some .minus
  | _ => none

/-- The token that begins with `c`. -/
def token? (c : Char) (rest : List Char) : Option (Token × List Char) :=
  match mark? c with
  | some t => some (t, rest)
  | none =>
    if c == '\'' || c == '"' then quoted? c rest
    else if isAsciiDigit c then numeral? (c :: rest)
    else if startsName c then
      let name := c :: rest.takeWhile continuesName
      some (.name (String.ofList name), rest.dropWhile continuesName)
    else none

/-- The tokens of a text. -/
def tokens : (fuel : Nat) → List Char → Option (List Token)
  | 0, _ => none
  | fuel + 1, cs =>
    match cs.dropWhile isBlank with
    | [] => some []
    | c :: rest => do
      let (t, rest) ← token? c rest
      return t :: (← tokens fuel rest)

-- ===== the forms

/-- The operand that a token is. -/
def operand? : Token → Option Operand
  | .name s => some (.field s)
  | .literal s => some (.literal s)
  | .number ds => (Decimal.real? ds).map .number
  | _ => none

/-- Operands with commas between them, up to the closing bracket, which must
come last. -/
def operands? : List Token → Option (List Operand)
  | [.closing] => some []
  | [t, .closing] => do return [← operand? t]
  | t :: .comma :: rest => do
    guard (rest != [.closing])
    return (← operand? t) :: (← operands? rest)
  | _ => none

/-- The formula of a name and the operands behind it. -/
def call? (name : String) (operands : List Operand) : Option Formula :=
  match lowerAscii name with
  | "concat" => some (.concat operands)
  | "sum" => some (.sum operands)
  | _ => none

/-- The formula of tokens. -/
def ofTokens? : List Token → Option Formula
  | [.name field] => some (.lookup field)
  | .name name :: .opening :: rest => do call? name (← operands? rest)
  | [.name field, .plus, .span n] => some (.shift field n)
  | [.name field, .minus, .span n] => some (.shift field (-n))
  | [.name left, .plus, .name right] => some (.add left (.field right))
  | [.name left, .minus, .name right] => some (.sub left (.field right))
  | [.name left, .plus, .number ds] => do
    return .add left (← operand? (.number ds))
  | [.name left, .minus, .number ds] => do
    return .sub left (← operand? (.number ds))
  | _ => none

/-- Reads a formula. A text of none of the forms is the name of a field. -/
def parse (text : String) : Formula :=
  match (tokens (text.length + 1) text.toList).bind ofTokens? with
  | some f => f
  | none => .lookup (trim text)

-- ===== inputs

/-- The field that an operand reads. -/
def Operand.field? : Operand → Option String
  | .field name => some name
  | _ => none

/-- The fields that a formula reads, in order. -/
def inputs : Formula → List String
  | .concat operands => operands.filterMap Operand.field?
  | .sum operands => operands.filterMap Operand.field?
  | .add left right => left :: (Operand.field? right).toList
  | .sub left right => left :: (Operand.field? right).toList
  | .shift field _ => [field]
  | .lookup field => [field]

-- ===== values

/-- Why a formula has no value. -/
inductive Fault
  | missing (field : String)
  | notNumeric (field raw : String)
  /-- A text within the formula is no number. -/
  | literalNotNumeric (text : String)
  | shift (why : Calendar.ShiftFault)
  deriving DecidableEq, Repr

/-- The text of a fault. -/
def Fault.message : Fault → String
  | .missing field => "field '" ++ field ++ "' is missing"
  | .notNumeric field raw =>
    "field '" ++ field ++ "' is not numeric ('" ++ raw ++ "')"
  | .literalNotNumeric text => "'" ++ text ++ "' is not numeric"
  | .shift why => why.message

/-- The number that a text is, white space around it aside. -/
def numeric? (text : String) : Option Float :=
  Decimal.real? (trimList text.toList)

/-- The value of a field that must be there. -/
def fieldOf (row : Row) (name : String) : Except Fault String :=
  match Table.find? name row with
  | some v => .ok v
  | none => .error (.missing name)

/-- The number in a field. -/
def numberOf (row : Row) (name : String) : Except Fault Float := do
  let raw ← fieldOf row name
  match numeric? raw with
  | some x => return x
  | none => throw (.notNumeric name raw)

/-- An operand as a number. -/
def operandNumber (row : Row) : Operand → Except Fault Float
  | .field name => numberOf row name
  | .number x => .ok x
  | .literal text =>
    match numeric? text with
    | some x => .ok x
    | none => .error (.literalNotNumeric text)

/-- An operand as text. -/
def operandText (row : Row) : Operand → Except Fault String
  | .field name => fieldOf row name
  | .literal text => .ok text
  | .number x => .ok (Decimal.plain x)

/-- What an operand adds to a sum; what is missing or no number adds nothing. -/
def addend (row : Row) : Operand → Float
  | .field name => ((Table.find? name row).bind numeric?).getD 0.0
  | .number x => x
  | .literal text => (numeric? text).getD 0.0

/-- The value of a formula in a row. There is none for a lookup of a field that
is missing; every other formula has a value or a fault. -/
def eval (row : Row) : Formula → Except Fault (Option String)
  | .lookup field => .ok (Table.find? field row)
  | .concat operands => do
    let texts ← operands.mapM (operandText row)
    return some (join "" texts)
  | .sum operands =>
    .ok (some (Decimal.plain
      (operands.foldl (fun total op => total + addend row op) 0.0)))
  | .add left right => do
    let a ← numberOf row left
    let b ← operandNumber row right
    return some (Decimal.plain (a + b))
  | .sub left right => do
    let a ← numberOf row left
    let b ← operandNumber row right
    return some (Decimal.plain (a - b))
  | .shift field minutes => do
    let raw ← fieldOf row field
    match Calendar.shiftText raw minutes with
    | .ok text => return some text
    | .error why => throw (.shift why)

end Formula

end Overlay
