/-
Reading addresses. From the outside in: the qualifier up to the first closing
brace, the attribute after the last `@`, and then the steps, whose separator
tells the shape. White space is dropped around the whole, around the qualifier,
and around every step.
-/
import Overlay.Address
import Overlay.Decimal.Read

namespace Overlay

open Text

namespace Address

/-- What is wrong with a text that is no address. -/
inductive Fault
  | emptyPath
  | openQualifier
  | emptyQualifier
  | qualifierAlone
  | attributeAlone
  | invalidAttribute (name : String)
  | descendantAxis
  | relativePath
  | emptyStep
  /-- A step ends with a bracket that was never opened. -/
  | unbalanced (step : String)
  | notANumber (index : String)
  | zeroPosition
  | invalidName (name : String)
  /-- An address that has to name an attribute does not. -/
  | attributeMissing
  deriving DecidableEq, Repr

/-- The text of a fault. -/
def Fault.message : Fault → String
  | .emptyPath => "empty path"
  | .openQualifier => "unterminated '\x7b' namespace qualifier"
  | .emptyQualifier => "empty namespace qualifier"
  | .qualifierAlone => "namespace qualifier without a name"
  | .attributeAlone => "attribute without an element"
  | .invalidAttribute name => "invalid attribute name '" ++ name ++ "'"
  | .descendantAxis => "descendant axis '//' is not supported here"
  | .relativePath => "relative '/' paths are not supported; use dot-notation"
  | .emptyStep => "empty path component"
  | .unbalanced step => "unbalanced ']' in '" ++ step ++ "'"
  | .notANumber index => "index '" ++ index ++ "' is not a number"
  | .zeroPosition => "indices are 1-based"
  | .invalidName name => "invalid name '" ++ name ++ "'"
  | .attributeMissing => "attribute selector must name an attribute"

/-- A text that is no address, and why. -/
structure Malformed where
  text : String
  fault : Fault
  deriving DecidableEq, Repr

/-- The text of the error. -/
def Malformed.message (m : Malformed) : String :=
  "invalid path syntax '" ++ m.text ++ "': " ++ m.fault.message

-- ===== names

/-- A character that may begin a name. -/
def startsName (c : Char) : Bool := isLetter c || c == '_' || c == '*'

/-- A character that may stand in a name. Between dots, a name has no dot
itself. -/
def continuesName (dots : Bool) (c : Char) : Bool :=
  isWord c || c == '-' || c == ':' || c == '*' || (dots && c == '.')

/-- A name of a step or of an attribute. -/
def isName (dots : Bool) : List Char → Bool
  | [] => false
  | c :: cs => startsName c && cs.all (continuesName dots)

-- ===== the parts, from the outside in

/-- The qualifier, and the text after it. -/
def splitQualifier (cs : List Char) :
    Except Fault (Option String × List Char) :=
  match cs with
  | '{' :: after =>
    match splitFirst? '}' after with
    | none => .error .openQualifier
    | some (name, rest) =>
      if (trimList name).isEmpty then .error .emptyQualifier
      else if (trimList rest).isEmpty then .error .qualifierAlone
      else .ok (some (String.ofList (trimList name)), trimList rest)
  | cs => .ok (none, cs)

/-- The attribute, and the text before it. -/
def splitAttribute (cs : List Char) :
    Except Fault (Option String × List Char) :=
  match splitLast? '@' cs with
  | none => .ok (none, cs)
  | some (element, name) =>
    if element.isEmpty then .error .attributeAlone
    else if isName true name then .ok (some (String.ofList name), element)
    else .error (.invalidAttribute (String.ofList name))

/-- The shape of a path, and the texts of its steps. -/
def splitSteps (cs : List Char) : Except Fault (Shape × List (List Char)) :=
  match cs with
  | '/' :: '/' :: _ => .error .descendantAxis
  | '/' :: rest => .ok (.rooted, splitOn '/' rest)
  | cs =>
    if cs.contains '/' then .error .relativePath
    else if cs.contains '.' then .ok (.dotted, splitOn '.' cs)
    else .ok (.bare, [cs])

/-- The name and the position of a step. -/
def splitPosition (raw : List Char) : Except Fault (List Char × Option Nat) :=
  match before? [']'] raw with
  | none => .ok (raw, none)
  | some head =>
    match splitFirst? '[' head with
    | none => .error (.unbalanced (String.ofList raw))
    | some (name, index) =>
      match Decimal.unsigned? Decimal.wordBound (trimList index) with
      | none => .error (.notANumber (String.ofList index))
      | some 0 => .error .zeroPosition
      | some p => .ok (name, some p)

/-- A step. -/
def readStep (shape : Shape) (text : List Char) : Except Fault Step := do
  let raw := trimList text
  if raw.isEmpty then throw .emptyStep
  let (name, position) ← splitPosition raw
  if isName (shape != .dotted) name then return ⟨String.ofList name, position⟩
  else throw (.invalidName (String.ofList name))

/-- An address whose outer white space is gone. -/
def readTrimmed (cs : List Char) : Except Fault Address := do
  if cs.isEmpty then throw .emptyPath
  let (qualifier, path) ← splitQualifier cs
  let (attr, path) ← splitAttribute path
  let (shape, raws) ← splitSteps path
  match ← raws.mapM (readStep shape) with
  | [] => throw .emptyStep
  | first :: rest => return ⟨qualifier, shape, first :: rest, by simp, attr⟩

/-- Reads an address. -/
def parse (text : String) : Except Malformed Address :=
  match readTrimmed (trimList text.toList) with
  | .ok a => .ok a
  | .error fault => .error ⟨text, fault⟩

end Address

end Overlay
