/-
JSON values with their fields in source order. A repeated field keeps its first
place and takes its last value, so an object that was built by `Table.insert`
never names a field twice.
-/
import Overlay.Decimal.Written
import Overlay.Table

namespace Overlay

/-- A JSON value. Numbers are integers of 64 bits, with or without sign, or
else binary64. -/
inductive Json
  | null
  | bool (value : Bool)
  | integer (value : Int)
  | real (value : Float)
  | text (value : String)
  | list (items : List Json)
  | object (fields : List (String × Json))
  deriving Inhabited

namespace Json

/-- The fields of an object, in order. -/
abbrev Fields := Table Json

/-- The value of a field, if this is an object that has it. -/
def field? (key : String) : Json → Option Json
  | .object fields => Table.find? key fields
  | _ => none

/-- The text of a text value. -/
def text? : Json → Option String
  | .text s => some s
  | _ => none

/-- The items of a list. -/
def list? : Json → Option (List Json)
  | .list items => some items
  | _ => none

/-- The fields of an object. -/
def object? : Json → Option Fields
  | .object fields => some fields
  | _ => none

/-- The value of a natural below `bound`. Numbers written with a point or an
exponent are none. -/
def natural? (bound : Nat) : Json → Option Nat
  | .integer n => if 0 ≤ n && n < bound then some n.toNat else none
  | _ => none

end Json

end Overlay
