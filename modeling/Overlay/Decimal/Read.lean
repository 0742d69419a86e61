/-
Reading numbers from decimal texts: an optional sign, digits with an optional
point, and an optional exponent; or, in any letter case, `inf`, `infinity` and
`nan`. At least one digit must stand before or after the point, and no white
space may stand anywhere. Integers are read with a sign and digits only.
-/
import Overlay.Text.CharClass
import Overlay.Decimal.Binary

namespace Overlay.Decimal

open Text

/-- The value of a digit, or of a letter taken as a digit beyond nine. -/
def digitValue (c : Char) : Nat :=
  if isAsciiDigit c then c.toNat - 48 else (asciiLower c).toNat - 87

/-- The natural written with these digits in base `base`. -/
def ofDigits (base : Nat) (digits : List Char) : Nat :=
  digits.foldl (fun n c => n * base + digitValue c) 0

/-- The value of an optional sign in front of a text, and the text after it. -/
def splitSign : List Char → Bool × List Char
  | '-' :: cs => (true, cs)
  | '+' :: cs => (false, cs)
  | cs => (false, cs)

/-- Reads a whole text as digits in base ten; `none` if it is empty or holds
anything else. -/
def natural? (cs : List Char) : Option Nat :=
  if cs.isEmpty || !cs.all isAsciiDigit then none else some (ofDigits 10 cs)

/-- Reads an unsigned integer below `bound`; a leading `+` is allowed. -/
def unsigned? (bound : Nat) (cs : List Char) : Option Nat :=
  let digits := match cs with
    | '+' :: rest => rest
    | _ => cs
  (natural? digits).filter (· < bound)

/-- Reads a signed integer of 64 bits. -/
def signed? (cs : List Char) : Option Int :=
  let (negative, digits) := splitSign cs
  (natural? digits).bind fun n =>
    let v : Int := if negative then -n else n
    if -(twoTo 63 : Int) ≤ v && v < twoTo 63 then some v else none

/-- The number of 64-bit words, the bound of positions, seeds and row numbers.
-/
def wordBound : Nat := twoTo 64

/-- An exponent `e`, an optional sign and digits, or nothing at all. -/
def exponent? : List Char → Option Int
  | [] => some 0
  | e :: cs =>
    if e == 'e' || e == 'E' then
      let (negative, digits) := splitSign cs
      (natural? digits).map fun n => if negative then -(n : Int) else n
    else none

/-- The number nearest to `n * 10 ^ e`. Exponents that leave the range of
binary64 whatever the digits are answered without computing the power. -/
def scale10 (negative : Bool) (n : Nat) (e : Int) : Binary :=
  let magnitude : Int := (Nat.toDigits 10 n).length + e
  if n == 0 || magnitude < -330 then .nearest negative 0 1
  else if magnitude > 320 then .infinite negative
  else if e ≥ 0 then .nearest negative (n * tenTo e.toNat) 1
  else .nearest negative n (tenTo (-e).toNat)

/-- Reads the text of a number after its sign, as its parts. -/
def unsignedBinary? (negative : Bool) (cs : List Char) : Option Binary :=
  let word := String.ofList (cs.map asciiLower)
  if word == "inf" || word == "infinity" then some (.infinite negative)
  else if word == "nan" then some .nan
  else
    let whole := cs.takeWhile isAsciiDigit
    let afterWhole := cs.dropWhile isAsciiDigit
    let (places, rest) := match afterWhole with
      | '.' :: r => (r.takeWhile isAsciiDigit, r.dropWhile isAsciiDigit)
      | r => ([], r)
    if whole.isEmpty && places.isEmpty then none
    else
      (exponent? rest).map fun e =>
        scale10 negative (ofDigits 10 (whole ++ places)) (e - places.length)

/-- Reads the parts of a number from a whole text. -/
def binary? (cs : List Char) : Option Binary :=
  let (negative, digits) := splitSign cs
  unsignedBinary? negative digits

/-- Reads the text of a number after its sign. -/
def unsignedReal? (negative : Bool) (cs : List Char) : Option Float :=
  (unsignedBinary? negative cs).map (·.toFloat)

/-- Reads a number from a whole text. -/
def real? (cs : List Char) : Option Float := (binary? cs).map (·.toFloat)

end Overlay.Decimal
