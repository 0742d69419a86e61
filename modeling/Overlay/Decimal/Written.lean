/-
Writing numbers. Three forms share the shortest digits:

* `plain` never has an exponent and writes whole numbers below `10 ^ 15` as
  integers; it is the form of computed fields. Of two shortest decimals at the
  same distance it takes the upper one.
* `exact` always shows that the number is not an integer, by `.0` or an
  exponent; it is the form of numbers that are echoed from a configuration. Of
  two such decimals it takes the even one.
* `twoPlaces` writes two decimal places, a half going to the even neighbour; it
  is the form of generated amounts.
-/
import Overlay.Decimal.Shortest

namespace Overlay.Decimal

/-- The digits of a natural in base ten. -/
def tens (n : Nat) : List Char := Nat.toDigits 10 n

/-- `n` zeros. -/
def zeros (n : Nat) : List Char := List.replicate n '0'

/-- A decimal without exponent; whole numbers have no point. -/
def Scientific.positional (s : Scientific) : List Char :=
  let ds := tens s.digits
  if s.exponent ≥ 0 then ds ++ zeros s.exponent.toNat
  else
    let places := (-s.exponent).toNat
    if places < ds.length then
      ds.take (ds.length - places) ++ '.' :: ds.drop (ds.length - places)
    else '0' :: '.' :: zeros (places - ds.length) ++ ds

/-- A minus sign in front of a negative number. -/
def signed (negative : Bool) (cs : List Char) : List Char :=
  if negative then '-' :: cs else cs

/-- Whether `m * 2 ^ q` is a whole number. -/
def isWhole (m : Nat) (q : Int) : Bool :=
  q ≥ 0 || m % twoTo (-q).toNat == 0

/-- The number as computed fields show it. -/
def plain (x : Float) : String :=
  String.ofList <|
    match decode x with
    | .nan => ['N', 'a', 'N']
    | .infinite negative => signed negative ['i', 'n', 'f']
    | .finite negative m q =>
      let (num, den) := fraction m q
      if isWhole m q && num / den < tenTo 15 then
        signed (negative && num != 0) (tens (num / den))
      else signed negative (shortest .up m q).positional

/-- A decimal in scientific form: one digit before the point, and a signed
exponent. -/
def Scientific.withExponent (s : Scientific) : List Char :=
  let ds := tens s.digits
  let e : Int := s.exponent + ds.length - 1
  let mantissa := if ds.length == 1 then ds else ds.take 1 ++ '.' :: ds.drop 1
  mantissa ++ 'e' :: (if e < 0 then '-' else '+') :: tens e.natAbs

/-- A finite number as configurations echo it: positional from `10 ^ -5` up to
`10 ^ 16`. -/
def exact (negative : Bool) (m : Nat) (q : Int) : String :=
  String.ofList <| signed negative <|
    if m == 0 then ['0', '.', '0']
    else
      let s := shortest .even m q
      let point : Int := (tens s.digits).length + s.exponent
      if -5 < point && point ≤ 16 then
        if s.exponent ≥ 0 then s.positional ++ ['.', '0'] else s.positional
      else s.withExponent

/-- A number with two decimal places. -/
def twoPlaces (x : Binary) : String :=
  String.ofList <|
    match x with
    | .nan => ['N', 'a', 'N']
    | .infinite negative => signed negative ['i', 'n', 'f']
    | .finite negative m q =>
      let (num, den) := fraction m q
      let cents := roundDiv (num * 100) den
      let places := cents % 100
      signed negative
        (tens (cents / 100) ++ '.' :: (if places < 10 then zeros 1 else [])
          ++ tens places)

end Overlay.Decimal
