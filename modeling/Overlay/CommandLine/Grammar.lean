/-
The grammar of command lines: which options and operands a command has, and
which values they take. Reading and help work from the same tables.
-/
import Overlay.Config.Mode
import Overlay.Decimal.Read

namespace Overlay.CommandLine

open Text

/-- The two sides of `name=value`, without white space around them; neither may
be empty. -/
def pair? (text : String) : Option (String × String) :=
  match splitFirst? '=' text.toList with
  | some (name, value) =>
    let name := trimList name
    let value := trimList value
    if name.isEmpty || value.isEmpty then none
    else some (String.ofList name, String.ofList value)
  | none => none

/-- The bound of repetitions. -/
def repeatBound : Nat := twoTo 32

/-- The two sides of `name=number`. -/
def repetition? (text : String) : Option (String × Nat) := do
  let (name, value) ← pair? text
  return (name, ← Decimal.unsigned? repeatBound value.toList)

/-- Which texts a value may be. -/
inductive ValueKind
  /-- Any text but the empty one. -/
  | path
  | text
  /-- A natural number of 64 bits. -/
  | number
  | mode
  | word (allowed : List String)
  /-- `name=value`. -/
  | pair
  /-- `name=number`. -/
  | repetition

/-- Whether a value may be this text. -/
def ValueKind.accepts : ValueKind → String → Bool
  | .path, given => given != ""
  | .text, _ => true
  | .number, given => (Decimal.unsigned? Decimal.wordBound given.toList).isSome
  | .mode, given => (Mode.parse given).isOk
  | .word allowed, given => allowed.contains given
  | .pair, given => (pair? given).isSome
  | .repetition, given => (repetition? given).isSome

/-- A value of an option, or the operands of a command. -/
structure ValueForm where
  /-- The name in the help text. -/
  name : String
  kind : ValueKind

/-- What an option does. -/
inductive OptionEffect
  | flag
  | value (form : ValueForm)
  /-- Ends the reading; the help text of the command is what is asked for. -/
  | help
  /-- Ends the reading; the version is what is asked for. -/
  | version

/-- An option. -/
structure OptionForm where
  long : String
  short : Option Char := none
  effect : OptionEffect := .flag
  /-- Whether the option may be given more than once. -/
  repeats : Bool := false
  /-- Whether its value may look like an option. -/
  takesAnything : Bool := false
  required : Bool := false
  /-- The value if the option is not given. -/
  fallback : Option String := none
  /-- The variable of the environment that gives the value as well. -/
  variableName : Option String := none
  about : String := ""

/-- A command. -/
structure CommandForm where
  name : String
  about : String
  options : List OptionForm
  /-- The operands; there has to be at least one. -/
  operands : Option ValueForm := none

/-- The value of an option, if it takes one. -/
def OptionForm.value? (o : OptionForm) : Option ValueForm :=
  match o.effect with
  | .value form => some form
  | _ => none

/-- An option with its value, as texts about it name it. -/
def OptionForm.label (o : OptionForm) : String :=
  match o.value? with
  | some form => "--" ++ o.long ++ " <" ++ form.name ++ ">"
  | none => "--" ++ o.long

/-- Operands, as texts about them name them. -/
def ValueForm.label (f : ValueForm) : String := "<" ++ f.name ++ ">..."

end Overlay.CommandLine
