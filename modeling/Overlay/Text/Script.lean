/-
All scripts, and the sets of their characters.
-/
import Overlay.Text.CharSet
import Overlay.Text.Script.Africa
import Overlay.Text.Script.America
import Overlay.Text.Script.EastAsia
import Overlay.Text.Script.Europe
import Overlay.Text.Script.NearEast
import Overlay.Text.Script.Other
import Overlay.Text.Script.SouthAsia
import Overlay.Text.Script.SoutheastAsia

namespace Overlay.Text.Script

/-- All scripts. -/
def all : List Script :=
  Europe.all ++ NearEast.all ++ SouthAsia.all ++ SoutheastAsia.all
    ++ EastAsia.all
    ++ Africa.all ++ America.all ++ Other.all

/-- The characters whose script it is. -/
def set (s : Script) : CharSet := CharSet.ofRuns s.own

/-- The characters that the script uses. Those of no script in particular count
only as long as no list of scripts is known for them. -/
def extendedSet (s : Script) : CharSet :=
  if s.general then s.set \ CharSet.ofRuns (all.flatMap (·.shared))
  else CharSet.ofRuns (s.own ++ s.shared)

end Overlay.Text.Script
