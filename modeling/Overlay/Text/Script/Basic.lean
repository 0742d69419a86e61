/-
A script: its names and its characters. The characters that several scripts
use, and that belong to none of them in particular, are listed with each script
that uses them.
-/
import Overlay.Text.Category.Run

namespace Overlay.Text

open Category

/-- A script. -/
structure Script where
  /-- The code of four letters. -/
  code : String
  name : String
  /-- Codes that the script had before. -/
  former : List String := []
  /-- The characters whose script it is. -/
  own : List Run
  /-- Characters of no script in particular, or of another one, that the script
  uses too. -/
  shared : List Run := []
  /-- Its characters are of no script in particular. -/
  general : Bool := false

end Overlay.Text
