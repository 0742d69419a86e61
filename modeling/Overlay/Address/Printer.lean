/-
The normal form of an address: the address as text, without white space.
-/
import Overlay.Address

namespace Overlay

open Text

/-- A step as text, its position in brackets. -/
def Step.render (s : Step) : String :=
  match s.position with
  | some p => s.name ++ "[" ++ toString p ++ "]"
  | none => s.name

/-- Steps as text. -/
def Shape.render (shape : Shape) (steps : List Step) : String :=
  let texts := steps.map Step.render
  match shape with
  | .rooted => "/" ++ join "/" texts
  | .dotted => join "." texts
  | .bare => join "" texts

/-- The normal form of an address. -/
def Address.normalize (a : Address) : String :=
  let qualifier := match a.qualifier with
    | some q => "\x7b" ++ q ++ "\x7d"
    | none => ""
  let suffix := match a.attr with
    | some name => "@" ++ name
    | none => ""
  qualifier ++ a.shape.render a.steps ++ suffix

end Overlay
