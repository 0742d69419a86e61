/-
The shortest decimal that reads back. For one digit, two digits, and so on, the
two neighbours of the number on that decimal grid are tried in exact
arithmetic; the first grid with a neighbour that rounds to the number wins, and
of two such neighbours the nearer one. Seventeen digits always suffice.
-/
import Overlay.Decimal.Binary

namespace Overlay.Decimal

/-- A positive decimal `digits * 10 ^ exponent`. -/
structure Scientific where
  digits : Nat
  exponent : Int

/-- The fractions, over one denominator, between which every real rounds to `m
* 2 ^ q`: the lower bound, the number itself and the upper bound, and the
denominator. Below a power of two the gap is half as wide. -/
structure Interval where
  low : Nat
  value : Nat
  high : Nat
  den : Nat
  /-- Whether the bounds themselves round to the number: they do if its last
  bit is zero. -/
  closed : Bool

/-- The interval of a number `m * 2 ^ q`, in quarters of `2 ^ q`. -/
def Interval.of (m : Nat) (q : Int) : Interval :=
  let narrow := m == twoTo 52 && q > -1074
  let (num, den) := fraction m (q - 2)
  let unit := num / m
  { low := num * 4 - unit * (if narrow then 1 else 2)
    value := num * 4
    high := num * 4 + unit * 2
    den := den
    closed := m % 2 == 0 }

/-- Whether `n * 10 ^ e` lies in the interval. -/
def Interval.holds (i : Interval) (n : Nat) (e : Int) : Bool :=
  let (left, scale) := if e ≥ 0 then (n * tenTo e.toNat * i.den, 1)
    else (n * i.den, tenTo (-e).toNat)
  let low := i.low * scale
  let high := i.high * scale
  if i.closed then low ≤ left && left ≤ high else low < left && left < high

/-- Which of two neighbours at the same distance is taken: the upper one, or
the even one. -/
inductive Tie
  | up
  | even

/-- The quotient of the number by `10 ^ e`, rounded down, and twice the rest
compared with the divisor. -/
def Interval.step (i : Interval) (e : Int) : Nat × Ordering :=
  let (num, den) :=
    if e ≥ 0 then (i.value, i.den * tenTo e.toNat)
    else (i.value * tenTo (-e).toNat, i.den)
  (num / den, compare (2 * (num % den)) den)

/-- Whether the neighbour above `down` is taken, when both read back. -/
def Tie.picksUpper (tie : Tie) (down : Nat) : Ordering → Bool
  | .lt => false
  | .gt => true
  | .eq => match tie with
    | .up => true
    | .even => down % 2 == 1

/-- The neighbour on the grid of `10 ^ e` that reads back, if there is one; the
nearer of two. -/
def Interval.onGrid? (i : Interval) (tie : Tie) (e : Int) : Option Scientific :=
  let (down, half) := i.step e
  let fitsDown := down > 0 && i.holds down e
  let fitsUp := i.holds (down + 1) e
  if fitsUp && (tie.picksUpper down half || !fitsDown) then some ⟨down + 1, e⟩
  else if fitsDown then some ⟨down, e⟩
  else none

/-- The exponent `e` with `10 ^ e ≤ value < 10 ^ (e + 1)`, found from an
estimate that is at most one too small or too large. -/
def Interval.magnitude (i : Interval) : Int :=
  let bits : Int := (i.value.log2 : Int) - i.den.log2
  let guess := bits * 30103 / 100000
  let atLeast (e : Int) : Bool := (i.step e).1 ≥ 1
  if atLeast (guess + 1) then guess + 1
  else if atLeast guess then guess
  else guess - 1

/-- Tries grids from `places` below the leading digit on, at most `fuel` of
them. -/
def Interval.search (i : Interval) (tie : Tie) (top : Int) :
    Nat → Nat → Scientific
  | 0, places => ⟨(i.step (top - places)).1, top - places⟩
  | fuel + 1, places =>
    match i.onGrid? tie (top - places) with
    | some s => s
    | none => i.search tie top fuel (places + 1)

/-- Moves factors of ten from the digits to the exponent. -/
def Scientific.strip (s : Scientific) : Scientific :=
  if h : s.digits ≠ 0 ∧ s.digits % 10 = 0 then
    Scientific.strip ⟨s.digits / 10, s.exponent + 1⟩
  else s
termination_by s.digits
decreasing_by exact Nat.div_lt_self (Nat.pos_of_ne_zero h.1) (by decide)

/-- The shortest decimal that reads back as `m * 2 ^ q`, for a positive `m`. -/
def shortest (tie : Tie) (m : Nat) (q : Int) : Scientific :=
  let i := Interval.of m q
  (i.search tie i.magnitude 17 0).strip

end Overlay.Decimal
