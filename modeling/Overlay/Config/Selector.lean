/-
Selectors of attributes: `//E[@a]` names the attributes `a` that elements `E`
have already, `//E/@a` the attributes `a` of all elements `E`, and an address
with an attribute those that it points at.
-/
import Overlay.Address.Reader

namespace Overlay

open Text

/-- Which attributes are meant. -/
inductive Selector
  /-- The attribute, on the elements that carry it. -/
  | existing (element attr : String)
  /-- The attribute, on all the elements. -/
  | every (element attr : String)
  | address (a : Address)
  deriving DecidableEq, Repr

namespace Selector

/-- A name, and the text after it. -/
def splitName (cs : List Char) : Option (String × List Char) :=
  let name := cs.takeWhile (Address.continuesName true)
  if Address.isName true name then
    some (String.ofList name, cs.drop name.length)
  else none

/-- The two forms that begin with `//`. -/
def readShort (cs : List Char) : Option Selector := do
  let rest ← after? ['/', '/'] cs
  let (element, rest) ← splitName rest
  match rest with
  | '[' :: '@' :: rest =>
    let (attr, rest) ← splitName rest
    if rest == [']'] then some (.existing element attr) else none
  | '/' :: '@' :: rest =>
    let (attr, rest) ← splitName rest
    if rest.isEmpty then some (.every element attr) else none
  | _ => none

/-- Reads a selector. -/
def parse (text : String) : Except Address.Malformed Selector :=
  let trimmed := trim text
  match readShort trimmed.toList with
  | some s => .ok s
  | none => do
    let a ← Address.parse trimmed
    if a.attr.isSome then return .address a else throw ⟨text, .attributeMissing⟩

end Selector

end Overlay
