/-
The characters that an edition of the character standard has, those of earlier
editions included.
-/
import Overlay.Text.CharSet
import Overlay.Text.Property.Age

namespace Overlay.Text.Age

/-- The characters of an edition, given by its number. -/
def set? (major minor : Nat) : Option CharSet :=
  if Property.Age.editions.any (·.1 == (major, minor)) then
    let upTo := Property.Age.editions.filter fun e =>
      e.1.1 < major || (e.1.1 == major && e.1.2 ≤ minor)
    some (CharSet.ofRuns (upTo.flatMap (·.2)))
  else none

end Overlay.Text.Age
