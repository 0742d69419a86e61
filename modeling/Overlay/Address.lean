/-
Addresses: texts that point at elements of a document, or at attributes of
elements. An address is an optional qualifier for the namespace, a path of
steps in one of three shapes, and an optional attribute. How it is classified
(`kind`) follows from these parts.

An address has at least one step, the last of which names the element that is
addressed.
-/
import Overlay.Text.Cut

namespace Overlay

/-- A step of a path: a name, which may hold wildcards, and a position among
the siblings of that name, counted from one. -/
structure Step where
  name : String
  position : Option Nat
  deriving DecidableEq, Repr, Inhabited

/-- How the steps of an address are laid out. -/
inductive Shape
  /-- The path `/a/b` from the root. -/
  | rooted
  /-- The steps `a.b`, the end of a path. -/
  | dotted
  /-- A single step, anywhere. -/
  | bare
  deriving DecidableEq, Repr, Inhabited

/-- The grammar an address belongs to. -/
inductive AddressKind
  | absolute
  | qualified
  | dotNotation
  | simple
  | attributed
  | pattern
  deriving DecidableEq, Repr, Inhabited

/-- An address by its parts. -/
structure Address where
  /-- The namespace, by its URI, by a prefix or by an alias of a prefix. -/
  qualifier : Option String
  shape : Shape
  steps : List Step
  steps_ne_nil : steps ≠ []
  /-- The attribute that is addressed, if not the element itself. -/
  attr : Option String
  deriving DecidableEq, Repr

instance : Inhabited Address := ⟨⟨none, .bare, [⟨"*", none⟩], by simp, none⟩⟩

/-- Whether a name holds a wildcard. -/
def isWild (name : String) : Bool := name.toList.contains '*'

namespace Step

/-- Whether the name of the step holds a wildcard. -/
def isWildcard (s : Step) : Bool := isWild s.name

/-- The position, which is the first unless one is given. -/
def positionOrFirst (s : Step) : Nat := s.position.getD 1

/-- The name after its last colon. -/
def localName (s : Step) : String :=
  match Text.splitLast? ':' s.name.toList with
  | some (_, rest) => String.ofList rest
  | none => s.name

/-- Whether the name is written with a prefix. -/
def isPrefixed (s : Step) : Bool := s.name.toList.contains ':'

end Step

namespace Shape

/-- The name of a shape. -/
def name : Shape → String
  | .rooted => "rooted"
  | .dotted => "dotted"
  | .bare => "bare"

end Shape

namespace AddressKind

/-- The name of a kind. -/
def name : AddressKind → String
  | .absolute => "absolute"
  | .qualified => "namespace-qualified"
  | .dotNotation => "dot-notation"
  | .simple => "simple"
  | .attributed => "attribute"
  | .pattern => "pattern"

/-- The rank of a kind; the higher one is the more specific. -/
def rank : AddressKind → UInt32
  | .absolute => 6
  | .qualified => 5
  | .dotNotation => 4
  | .simple => 3
  | .attributed => 2
  | .pattern => 1

end AddressKind

namespace Address

variable (a : Address)

/-- The last step, which names the element that is addressed. -/
def target : Step := a.steps.getLast a.steps_ne_nil

/-- Whether a step, or the attribute, holds a wildcard. -/
def isPattern : Bool := a.steps.any Step.isWildcard || a.attr.any isWild

/-- Whether a step gives a position. -/
def hasPosition : Bool := a.steps.any (·.position.isSome)

/-- The kind of an address. A qualifier decides over wildcards, and wildcards
over the shape. -/
def kind : AddressKind :=
  if a.qualifier.isSome then .qualified
  else if a.isPattern then .pattern
  else
    match a.shape with
    | .rooted => .absolute
    | .dotted => .dotNotation
    | .bare => if a.attr.isSome then .attributed else .simple

/-- How specific an address is within its kind: fifty for every step, a hundred
if there is a position and a hundred and fifty if there is an attribute,
counted in words of 32 bits. -/
def specificity : UInt32 :=
  let steps := 50 * UInt32.ofNat a.steps.length
  let positions := if a.hasPosition then steps + 100 else steps
  if a.attr.isSome then positions + 150 else positions

/-- The weight of an address: where two addresses point at the same place, the
higher weight wins. The kind gives the thousands and the specificity, cut off
at 999, the rest. -/
def precedence : UInt32 := a.kind.rank * 1000 + min a.specificity 999

end Address

end Overlay
