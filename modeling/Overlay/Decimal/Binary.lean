/-
Binary64 numbers as exact fractions. A finite number is `± m * 2 ^ q`. Its
parts are read off the bits, and `nearest` goes the other way, from a fraction
to the closest number, a tie going to the even one. Everything in between is
arithmetic on naturals: sums, products and quotients are those of the
fractions, each of them rounded once.
-/
import Overlay.Power

namespace Overlay.Decimal

/-- The quotient of `num` by `den`, rounded to the nearest natural; a half goes
to the even one. -/
def roundDiv (num den : Nat) : Nat :=
  let q := num / den
  let r := num % den
  if 2 * r > den || (2 * r == den && q % 2 == 1) then q + 1 else q

/-- A binary64 number by its parts. -/
inductive Binary
  | nan
  | infinite (negative : Bool)
  /-- The number `m * 2 ^ q`, or its negative. -/
  | finite (negative : Bool) (m : Nat) (q : Int)
  deriving DecidableEq, Repr

/-- The parts of a number, read off its 64 bits. -/
def Binary.ofBits (bits : Nat) : Binary :=
  let negative := bits / twoTo 63 == 1
  let biased : Nat := bits / twoTo 52 % twoTo 11
  let low := bits % twoTo 52
  if biased == 2047 then
    if low == 0 then .infinite negative else .nan
  else if biased == 0 then .finite negative low (-1074)
  else .finite negative (twoTo 52 + low) ((biased : Int) - 1075)

/-- The parts of a number. -/
def decode (x : Float) : Binary := Binary.ofBits x.toBits.toNat

/-- The bits of positive infinity. -/
def infinityBits : Nat := 2047 * twoTo 52

/-- The bits of the number nearest to `num / den`, for a positive `den`.

The exponent is chosen so that the quotient has 53 bits, or is the least one
there is; counting the significand on from the exponent makes a carry out of
the significand land in the exponent. -/
def nearestBits (num den : Nat) : Nat :=
  if num == 0 then 0
  else
    let guess : Int := (num.log2 : Int) - den.log2 - 52
    let scaled (e : Int) : Nat × Nat :=
      if e ≥ 0 then (num, den * twoTo e.toNat)
      else (num * twoTo (-e).toNat, den)
    let (n, d) := scaled guess
    let exact := if n / d < twoTo 52 then guess - 1 else guess
    let e := max exact (-1074)
    let (n, d) := scaled e
    min ((e + 1074).toNat * twoTo 52 + roundDiv n d) infinityBits

/-- A finite number as a fraction of naturals, its sign aside. -/
def fraction (m : Nat) (q : Int) : Nat × Nat :=
  if q ≥ 0 then (m * twoTo q.toNat, 1) else (m, twoTo (-q).toNat)

namespace Binary

/-- The number nearest to `num / den`, negated if asked for. -/
def nearest (negative : Bool) (num den : Nat) : Binary :=
  let bits := nearestBits num den
  ofBits (if negative then twoTo 63 + bits else bits)

/-- The bits of a number; those that `nearest` leaves out are the bits of the
number that is none. Behind the sign, `m` is counted on from the exponent. -/
def bits : Binary → Nat
  | .nan => infinityBits + twoTo 51
  | .infinite negative => (if negative then twoTo 63 else 0) + infinityBits
  | .finite negative m q =>
    (if negative then twoTo 63 else 0) + (q + 1074).toNat * twoTo 52 + m

/-- The number by its bits. -/
def toFloat (x : Binary) : Float := Float.ofBits (UInt64.ofNat x.bits)

/-- Whether a number is finite. -/
def isFinite : Binary → Bool
  | .finite .. => true
  | _ => false

/-- The next smaller one of a positive number. -/
def stepDown (x : Binary) : Binary := ofBits (x.bits - 1)

/-- A finite number, counted in units of `2 ^ -1074`, of which all others are
multiples. An infinite one is put where the first number would be that is too
great. -/
def units : Binary → Int
  | .nan => 0
  | .infinite negative => if negative then -twoTo 2098 else twoTo 2098
  | .finite negative m q =>
    let n : Int := m * twoTo (q + 1074).toNat
    if negative then -n else n

/-- Whether a number is less than another one. -/
def lt (x y : Binary) : Bool := x != .nan && y != .nan && x.units < y.units

/-- Whether a number is not greater than another one. -/
def le (x y : Binary) : Bool := x != .nan && y != .nan && x.units ≤ y.units

/-- The negative of a number. -/
def neg : Binary → Binary
  | .nan => .nan
  | .infinite negative => .infinite (!negative)
  | .finite negative m q => .finite (!negative) m q

/-- The sum of two numbers. Zero is positive, unless both are negative. -/
def add : Binary → Binary → Binary
  | x@(.finite a ..), y@(.finite b ..) =>
    let sum := x.units + y.units
    nearest (if sum == 0 then a && b else sum < 0) sum.natAbs (twoTo 1074)
  | .finite .., .infinite b => .infinite b
  | .infinite a, .finite .. => .infinite a
  | .infinite a, .infinite b => if a == b then .infinite a else .nan
  | _, _ => .nan

/-- The difference of two numbers. -/
def sub (x y : Binary) : Binary := x.add y.neg

/-- The product of two numbers. -/
def mul : Binary → Binary → Binary
  | x@(.finite a ..), y@(.finite b ..) =>
    nearest (a != b) (x.units * y.units).natAbs (twoTo 2148)
  | .finite a m _, .infinite b => if m == 0 then .nan else .infinite (a != b)
  | .infinite a, .finite b m _ => if m == 0 then .nan else .infinite (a != b)
  | .infinite a, .infinite b => .infinite (a != b)
  | _, _ => .nan

/-- The quotient of two numbers. -/
def div : Binary → Binary → Binary
  | x@(.finite a m _), y@(.finite b n _) =>
    if n != 0 then nearest (a != b) x.units.natAbs y.units.natAbs
    else if m == 0 then .nan else .infinite (a != b)
  | .finite a .., .infinite b => nearest (a != b) 0 1
  | .infinite a, .finite b .. => .infinite (a != b)
  | _, _ => .nan

instance : Add Binary := ⟨add⟩
instance : Sub Binary := ⟨sub⟩
instance : Mul Binary := ⟨mul⟩
instance : Div Binary := ⟨div⟩

end Binary

/-- The number nearest to `num / den`, negated if asked for. -/
def nearest (negative : Bool) (num den : Nat) : Float :=
  (Binary.nearest negative num den).toFloat

end Overlay.Decimal
