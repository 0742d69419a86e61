/-
Runs of code points, the unit in which the character tables are written. A run
steps from its first to its last code point by its stride, so that capital and
small letters that alternate take one run.
-/
namespace Overlay.Text.Category

/-- The code points `first`, `first + stride`, … up to `last`. -/
structure Run where
  first : Nat
  last : Nat
  stride : Nat

/-- Membership in a run. -/
def Run.covers (r : Run) (n : Nat) : Bool :=
  r.first ≤ n && n ≤ r.last && (n - r.first) % r.stride == 0

/-- Membership in a table of runs. -/
def covers (table : List Run) (c : Char) : Bool :=
  table.any (·.covers c.toNat)

end Overlay.Text.Category
