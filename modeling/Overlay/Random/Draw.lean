/-
Draws from a stream: integers and numbers from a range, every value as likely
as any other.

An integer below `n` is the high half of a product of `n` with a number of 64
bits; numbers whose low half lies beyond the largest multiple that fits are
thrown away and drawn again. A number is a fraction times the width of the
range; the width must be a number itself, or there is no draw at all.
-/
import Overlay.Decimal.Read
import Overlay.Random.Stream

namespace Overlay.Random

open Decimal (Binary)

/-- The numbers of 64 bits. -/
def words : Nat := twoTo 64

/-- The greatest low half that is kept in a draw below `n`: one less than the
largest `n * 2 ^ k` that has 64 bits. -/
def zone (n : Nat) : Nat := n * twoTo (63 - n.log2) - 1

/-- Draws below `n`, at most `tries + 1` times. -/
def below (n : Nat) : (tries : Nat) → StateM Stream Nat
  | 0 => do return (← word64) * n / words
  | tries + 1 => do
    let v ← word64
    if v * n % words ≤ zone n then return v * n / words else below n tries

/-- How often a draw is repeated at most; each time, less than every other one
has to be. -/
def patience : Nat := 4096

/-- An integer from `low` to `high`, both included, of 64 bits. Of all integers
of 64 bits, one is read off the bits of a draw, the highest of which is the
sign. -/
def integer (low high : Int) : StateM Stream Int := do
  let n := (high - low + 1).toNat
  if n ≥ words then
    let v ← word64
    return if v < twoTo 63 then (v : Int) else v - words
  else
    let v ← below n patience
    return low + v

/-- A natural below `n`. -/
def index (n : Nat) : StateM Stream Nat := below n patience

/-- The greatest fraction that is drawn, `1 - 2 ^ -52`. -/
def topFraction : Binary := .nearest false (twoTo 52 - 1) (twoTo 52)

/-- The factor that takes the greatest fraction to the width of a range. -/
def scale (low high : Binary) : Binary := (high - low) / topFraction

/-- Whether a range is too wide for draws: there is no such factor. -/
def overflows (low high : Binary) : Bool := !(scale low high).isFinite

/-- A factor, lowered until the greatest fraction stays within the range. -/
def fitScale (low high : Binary) : (steps : Nat) → (factor : Binary) → Binary
  | 0, factor => factor
  | steps + 1, factor =>
    if high.lt (factor * topFraction + low) then
      fitScale low high steps factor.stepDown
    else factor

/-- A number of a range. A range that is too wide breaks the stream off. -/
def real (low high : Binary) : StateM Stream Binary :=
  if overflows low high then breakOff .nan
  else do
    let factor := fitScale low high 1024 (scale low high)
    let v ← word64
    return .nearest false (v / twoTo 12) (twoTo 52) * factor + low

end Overlay.Random
