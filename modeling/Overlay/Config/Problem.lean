/-
What can be wrong with a configuration. Problems are gathered, not thrown: a
reader that meets one notes it and goes on, so that all of them can be told at
once.
-/
import Overlay.Address.Reader
import Overlay.Config.Mode
import Overlay.Json.Printer

namespace Overlay

/-- A problem with a template. -/
inductive TemplateProblem
  | notATemplate (got : Json)
  | unknownCycling (got : Json)
  | fieldsNotTexts
  | computedNotObject
  /-- A computed field has an object without a formula. -/
  | formulaMissing (name : String)
  | formulaNotText (name : String) (got : Json)
  | parentNotName (got : Json)
  | dataNotList (got : Json)
  | rowNotObject (number : Nat) (got : Json)
  | noRows

/-- A problem with a choice. -/
inductive ChoiceProblem
  | notAChoice (got : Json)
  | conditionsNotList (got : Json)
  | conditionIncomplete (number : Nat)
  | defaultBlank (got : Json)
  /-- There is neither a condition nor a default. -/
  | nothingToChoose

/-- A problem with a configuration. -/
inductive Problem
  | invalidJson
  | invalidToml
  | notAnObject
  | schemaMissing
  | schemaNotText (got : Json)
  | modeMissing
  | modeNotText (got : Json)
  | unknownMode (word : String)
  | seedNotNatural (got : Json)
  | sectionNotObject (name : String) (got : Json)
  | keyNotAddress (sectionName : String) (why : Address.Malformed)
  | keyNotSelector (key : String) (why : Address.Malformed)
  | valueNotScalar (sectionName key : String) (got : Json)
  | unknownTemplate (sectionName key template : String)
  | choice (key : String) (problem : ChoiceProblem)
  | template (name : String) (problem : TemplateProblem)
  | repeatNotNatural (key : String) (got : Json)
  | defaultNotText (got : Json)
  | uriNotText (nsPrefix : String) (got : Json)
  | undeclaredPrefix (key nsPrefix : String)
  | prefixNotText (key : String) (got : Json)

/-- What was found instead. -/
def gotText (got : Json) : String := " (got " ++ got.compact ++ ")"

/-- The text of a problem with the template `name`. -/
def TemplateProblem.message (name : String) : TemplateProblem → String
  | .notATemplate got =>
    "templates." ++ name ++ ": must be a list of rows or an object"
      ++ gotText got
  | .unknownCycling got =>
    "templates." ++ name
      ++ ": cycle must be one of sequential, random, once, infinite"
      ++ gotText got
  | .fieldsNotTexts =>
    "templates." ++ name ++ ": fields must be a list of strings"
  | .computedNotObject =>
    "templates." ++ name ++ ": computed must be an object of name -> formula"
  | .formulaMissing field =>
    "templates." ++ name ++ ".computed." ++ field
      ++ ": formula must be a string"
  | .formulaNotText field got =>
    "templates." ++ name ++ ".computed." ++ field
      ++ ": formula must be a string" ++ gotText got
  | .parentNotName got =>
    "templates." ++ name ++ ": inheritance must name a template" ++ gotText got
  | .dataNotList got =>
    "templates." ++ name ++ ": data must be a list of rows" ++ gotText got
  | .rowNotObject number got =>
    "templates." ++ name ++ ": row " ++ toString number ++ " must be an object"
      ++ gotText got
  | .noRows => "templates." ++ name ++ ": needs at least one data row"

/-- The text of a problem with the choice under `key`. -/
def ChoiceProblem.message (key : String) : ChoiceProblem → String
  | .notAChoice got =>
    "choices." ++ key ++ ": must be an option name or a conditional object"
      ++ gotText got
  | .conditionsNotList got =>
    "choices." ++ key ++ ": conditions must be a list" ++ gotText got
  | .conditionIncomplete number =>
    "choices." ++ key ++ ": condition #" ++ toString number
      ++ " needs both a non-empty 'if' and 'choose'"
  | .defaultBlank got =>
    "choices." ++ key ++ ": default must be a non-empty string" ++ gotText got
  | .nothingToChoose =>
    "choices." ++ key ++ ": needs at least one condition or a default"

/-- The text of a problem. -/
def Problem.message : Problem → String
  | .invalidJson => "invalid JSON"
  | .invalidToml => "invalid TOML"
  | .notAnObject => "configuration must be an object"
  | .schemaMissing => "schema is required"
  | .schemaNotText got => "schema must be a non-empty string" ++ gotText got
  | .modeMissing => "mode is required"
  | .modeNotText got => "mode must be a string" ++ gotText got
  | .unknownMode word => "mode: " ++ Mode.unknownMessage word
  | .seedNotNatural got => "seed must be a non-negative integer" ++ gotText got
  | .sectionNotObject name got => name ++ " must be an object" ++ gotText got
  | .keyNotAddress name why => name ++ ": " ++ why.message
  | .keyNotSelector key why => "attributes." ++ key ++ ": " ++ why.message
  | .valueNotScalar name key got =>
    name ++ "." ++ key ++ ": value must be a string, number or boolean"
      ++ gotText got
  | .unknownTemplate name key missing =>
    name ++ "." ++ key ++ ": references unknown template '" ++ missing ++ "'"
  | .choice key problem => problem.message key
  | .template name problem => problem.message name
  | .repeatNotNatural key got =>
    "repeats." ++ key ++ ": must be a non-negative integer" ++ gotText got
  | .defaultNotText got => "namespaces.default must be a string" ++ gotText got
  | .uriNotText p got =>
    "namespaces.prefixes." ++ p ++ " must be a string" ++ gotText got
  | .undeclaredPrefix key p =>
    "namespaces.elements." ++ key ++ ": prefix '" ++ p
      ++ "' is not declared in namespaces.prefixes"
  | .prefixNotText key got =>
    "namespaces.elements." ++ key ++ ": prefix must be a string" ++ gotText got

/-- A value that was read, and the problems met on the way, first one first. -/
structure Checked (α : Type) where
  value : α
  problems : List Problem

namespace Checked

instance : Monad Checked where
  pure v := ⟨v, []⟩
  bind c f := ⟨(f c.value).value, c.problems ++ (f c.value).problems⟩

/-- Notes a problem. -/
def note (p : Problem) : Checked Unit := ⟨(), [p]⟩

/-- Nothing, because of a problem. -/
def failed {α : Type} (p : Problem) : Checked (Option α) := ⟨none, [p]⟩

/-- The value, if no problem was met. -/
def toExcept {α : Type} (c : Checked α) : Except (List Problem) α :=
  if c.problems.isEmpty then .ok c.value else .error c.problems

/-- Reads every item of a list, and keeps what came out of it. -/
def collect {α β : Type} (read : α → Checked (Option β)) :
    List α → Checked (List β)
  | [] => pure []
  | a :: rest => do
    let b ← read a
    let others ← collect read rest
    return b.toList ++ others

end Checked

end Overlay
