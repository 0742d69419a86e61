/-
Powers of two and of ten. Bounds of fixed widths and the grids of decimals are
made of them.
-/
namespace Overlay

/-- A power of two. -/
def twoTo (e : Nat) : Nat := Nat.pow 2 e

/-- A power of ten. -/
def tenTo (e : Nat) : Nat := Nat.pow 10 e

end Overlay
