/-
The words of a configuration that are chosen from a few: how much the baseline
holds, and in which order the rows of a template are drawn. White space around
a word and the case of its letters do not matter.
-/
import Overlay.Text.Cut

namespace Overlay

open Text

/-- How much of a document the baseline holds. -/
inductive Mode
  | complete
  | minimal
  | custom
  deriving DecidableEq, Repr, Inhabited

namespace Mode

/-- The word of a mode. -/
def name : Mode → String
  | .complete => "complete"
  | .minimal => "minimal"
  | .custom => "custom"

/-- The mode of a word; an unknown word is given back in lower case. -/
def parse (text : String) : Except String Mode :=
  match lowerAscii (trim text) with
  | "complete" => .ok .complete
  | "minimal" => .ok .minimal
  | "custom" => .ok .custom
  | other => .error other

/-- What is said about an unknown word. -/
def unknownMessage (word : String) : String :=
  "unknown mode '" ++ word ++ "' (expected complete, minimal or custom)"

end Mode

/-- The order in which rows are drawn. -/
inductive Cycling
  /-- One after the other, and again from the first one after the last. -/
  | sequential
  /-- Any row each time. -/
  | random
  /-- Every row once, and then none. -/
  | once
  /-- The same as `sequential`. -/
  | infinite
  deriving DecidableEq, Repr, Inhabited

namespace Cycling

/-- The word of an order. -/
def name : Cycling → String
  | .sequential => "sequential"
  | .random => "random"
  | .once => "once"
  | .infinite => "infinite"

/-- The order of a word. -/
def parse? (text : String) : Option Cycling :=
  match lowerAscii (trim text) with
  | "sequential" => some .sequential
  | "random" => some .random
  | "once" => some .once
  | "infinite" => some .infinite
  | _ => none

end Cycling

end Overlay
