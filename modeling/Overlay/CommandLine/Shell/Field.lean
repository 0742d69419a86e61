/-
What words become when a command runs. A word is expanded into pieces of
fields, and the pieces make up fields: a blank between two characters that
nothing quotes begins a new one.

What a script prints comes from outside (`output`), so that this does not
depend on how scripts run.
-/
import Overlay.CommandLine.Printed
import Overlay.CommandLine.Shell.Glob
import Overlay.CommandLine.Shell.Integer
import Overlay.CommandLine.Shell.Script
import Overlay.Table

namespace Overlay.CommandLine.Shell

open Text

/-- The state of a shell. -/
structure State where
  /-- The name of the script and its arguments. -/
  args : List String
  vars : Table String := []
  functions : Table Script := []
  /-- The status of the last command. -/
  status : Nat := 0
  input : List UInt8 := []
  printed : List UInt8 := []
  messages : List String := []
  /-- A command that fails ends the script. -/
  stopsOnFailure : Bool := false
  /-- Escapes count in what `echo` prints only if an option says so. -/
  plainEcho : Bool := false
  /-- A word could not be expanded. -/
  stopped : Bool := false

/-- What a shell does. -/
abbrev Action (m : Type → Type) (α : Type) : Type := StateT State m α

namespace State

/-- The value of a parameter. -/
def parameter? (s : State) (name : String) : Option String :=
  match name with
  | "@" | "*" => some (join " " (s.args.drop 1))
  | "#" => some (toString (s.args.length - 1))
  | "?" => some (toString s.status)
  | "-" => some ""
  | name =>
    match name.toNat? with
    | some n => s.args[n]?
    | none => s.vars.find? name

/-- The characters that stand between fields. -/
def separators (s : State) : List Char :=
  ((s.vars.find? "IFS").getD " \t\n").toList

/-- The state with a value for a variable. -/
def assign (s : State) (name value : String) : State :=
  { s with vars := s.vars.insert name value }

/-- The value of a name in an expression on integers. -/
def integerNamed (s : State) (name : String) : Int :=
  ((s.parameter? name).bind String.toInt?).getD 0

end State

-- ===== fields

/-- A piece of fields. -/
inductive FieldPiece
  | char (c : Char) (quoted : Bool)
  /-- Nothing, but enough to make a field. -/
  | quotes
  /-- Blanks, which end a field if there is one. -/
  | gap
  /-- A mark, which ends a field even if it is empty. -/
  | cut
  /-- The end of an argument. -/
  | next

/-- The pieces of a text that is not quoted. -/
def unquotedPieces (separators text : List Char) : List FieldPiece :=
  text.map fun c =>
    if !separators.contains c then .char c false
    else if c == ' ' || c == '\t' || c == '\n' then .gap
    else .cut

/-- Fields so far, the last one first, and the characters of the one at hand,
the last one first. -/
structure FieldsSoFar where
  done : List (List MarkedChar) := []
  current : Option (List MarkedChar) := none
  /-- Blanks have just ended a field, so a mark that follows does not end
  another one. -/
  afterGap : Bool := false

/-- The fields with one more piece. -/
def FieldsSoFar.add (k : FieldsSoFar) : FieldPiece → FieldsSoFar
  | .char c quoted =>
    { k with
      current := some ((c, quoted) :: k.current.getD []),
      afterGap := false }
  | .quotes => { k with current := some (k.current.getD []), afterGap := false }
  | .gap =>
    match k.current with
    | some field => ⟨field.reverse :: k.done, none, true⟩
    | none => k
  | .cut =>
    match k.current with
    | some field => ⟨field.reverse :: k.done, none, false⟩
    | none =>
      if k.afterGap then { k with afterGap := false }
      else { k with done := [] :: k.done }
  | .next => ⟨(k.current.getD []).reverse :: k.done, none, false⟩

/-- The fields of some pieces. -/
def fieldsOf (pieces : List FieldPiece) : List (List MarkedChar) :=
  let k := pieces.foldl FieldsSoFar.add {}
  match k.current with
  | some field => (field.reverse :: k.done).reverse
  | none => k.done.reverse

/-- The characters of some pieces that are no fields. -/
def pieceChars (pieces : List FieldPiece) : List MarkedChar :=
  pieces.filterMap fun
    | .char c quoted => some (c, quoted)
    | .gap | .cut | .next => some (' ', true)
    | .quotes => none

/-- The text of some characters. -/
def plainText (cs : List MarkedChar) : String := String.ofList (cs.map (·.1))

-- ===== expanding

/-- The word that a text in braces holds. -/
def innerWord (quoted : Bool) (text : List Char) : Word :=
  let found := if quoted then quotedPieces true (text.length + 1) text
    else wordPieces true (text.length + 1) text
  (found.map (·.1)).getD []

/-- Whether a value is missing. -/
def isMissing (colon : Bool) (value : Option String) : Bool :=
  match value with
  | none => true
  | some text => colon && text == ""

section

variable {m : Type → Type} [Monad m]

/-- The pieces of a text that was put in: one that is quoted stays whole. -/
def shownPieces (splits quoted : Bool) (text : List Char) :
    Action m (List FieldPiece) := do
  if splits && !quoted then return unquotedPieces (← get).separators text
  else return text.map (FieldPiece.char · quoted)

/-- The pieces of the arguments. -/
def argumentPieces (splits quoted : Bool) : Action m (List FieldPiece) := do
  let args := (← get).args.drop 1
  if quoted then
    return [FieldPiece.next].intercalate
      (args.map fun a => .quotes :: a.toList.map (FieldPiece.char · true))
  else
    let parts ← args.mapM fun a => shownPieces splits false a.toList
    return [FieldPiece.gap].intercalate parts

/-- The pieces of a word. `output` gives what a script prints. -/
def expand (output : List Char → Action m (List UInt8)) (splits : Bool) :
    (fuel : Nat) → Word →
    Action m (List FieldPiece)
  | 0, _ => pure []
  | _, [] => pure []
  | fuel + 1, piece :: rest => do
    let inner (quoted : Bool) (text : List Char) :
        Action m (List FieldPiece) := do
      let pieces ← expand output splits fuel (innerWord quoted text)
      if splits && !quoted then
        let separators := (← get).separators
        return pieces.flatMap fun
          | .char c false => unquotedPieces separators [c]
          | piece => [piece]
      else return pieces
    let first ← (match piece with
      | .literal c quoted => pure [.char c quoted]
      | .emptyQuotes => pure [.quotes]
      | .output script quoted => do
        let text := (String.fromUTF8? ⟨(← output script).toArray⟩).getD ""
        shownPieces splits quoted (dropEndWhile (· == '\n') text.toList)
      | .integer expression quoted => do
        let text :=
          pieceChars (← expand output false fuel (innerWord true expression))
        match integer? (← get).integerNamed (text.map (·.1)) with
        | some n => shownPieces splits quoted (toString n).toList
        | none => do
          modify fun s => { s with stopped := true }
          return []
      | .parameter name use quoted => do
        let value := (← get).parameter? name
        let there := shownPieces splits quoted (value.getD "").toList
        match use with
        | .value =>
          if name == "@" || (name == "*" && !quoted) then
            argumentPieces splits quoted
          else there
        | .length =>
          shownPieces splits quoted (toString (value.getD "").length).toList
        | .orElse colon word =>
          if isMissing colon value then inner quoted word else there
        | .orAssign colon word =>
          if isMissing colon value then do
            let pieces ← expand output false fuel (innerWord quoted word)
            modify fun s => s.assign name (plainText (pieceChars pieces))
            shownPieces splits quoted ((pieceChars pieces).map (·.1))
          else there
        | .ifThere colon word =>
          if isMissing colon value then pure [] else inner quoted word
        | .cut atEnd longest pattern => do
          let pattern :=
            pieceChars (← expand output false fuel (innerWord false pattern))
          shownPieces splits quoted
            (globCut atEnd longest pattern (value.getD "").toList))
    return first ++ (← expand output splits fuel rest)

/-- The characters of a word that makes no fields. -/
def expandChars (output : List Char → Action m (List UInt8)) (fuel : Nat)
    (w : Word) : Action m (List MarkedChar) := do
  return pieceChars (← expand output false fuel w)

/-- The fields of a word. The arguments in quotes are no field if there are
none. -/
def expandFields (output : List Char → Action m (List UInt8)) (fuel : Nat)
    (w : Word) : Action m (List String) := do
  match w, (← get).args.drop 1 with
  | [.emptyQuotes, .parameter "@" .value true], [] => return []
  | w, _ => return (fieldsOf (← expand output true fuel w)).map plainText

/-- The fields of some words. -/
def expandAll (output : List Char → Action m (List UInt8)) (fuel : Nat)
    (ws : List Word) : Action m (List String) := do
  return (← ws.mapM (expandFields output fuel)).flatten

end

end Overlay.CommandLine.Shell
