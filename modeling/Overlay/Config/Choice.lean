/-
Reading choices: the name of an option, or an object with conditions and a
default.
-/
import Overlay.Config
import Overlay.Config.Problem

namespace Overlay.Config

open Text

/-- A text that is not blank, trimmed. -/
def solidText? (v : Json) : Option String :=
  v.text?.bind fun s => if isBlankText s then none else some (trim s)

/-- A rule, with its number. -/
def readRule (key : String) (rule : Json × Nat) :
    Checked (Option ConditionRule) :=
  let text (name : String) : Option String :=
    (rule.1.field? name).bind solidText?
  match text "if", text "choose" with
  | some test, some choose => pure (some ⟨test, choose⟩)
  | _, _ => .failed (.choice key (.conditionIncomplete (rule.2 + 1)))

/-- The rules of a conditional choice. -/
def readRules (key : String) (fields : Json.Fields) :
    Checked (List ConditionRule) :=
  match Table.find? "conditions" fields with
  | none => pure []
  | some (.list items) => .collect (readRule key) items.zipIdx
  | some other => do
    Checked.note (.choice key (.conditionsNotList other))
    return []

/-- The default of a conditional choice. -/
def readFallback (key : String) (fields : Json.Fields) :
    Checked (Option String) :=
  match Table.find? "default" fields with
  | none => pure none
  | some v =>
    match solidText? v with
    | some s => pure (some s)
    | none => .failed (.choice key (.defaultBlank v))

/-- The two parts of a conditional choice. -/
def readConditional (key : String) (fields : Json.Fields) :
    Checked (List ConditionRule × Option String) := do
  let rules ← readRules key fields
  let fallback ← readFallback key fields
  return (rules, fallback)

/-- How an option is chosen. A conditional choice with a problem is dropped as
a whole. -/
def readChoiceSpec (key : String) (v : Json) : Checked (Option ChoiceSpec) :=
  match v with
  | .text s =>
    if isBlankText s then .failed (.choice key (.notAChoice v))
    else pure (some (.fixed (trim s)))
  | .object fields =>
    let c := readConditional key fields
    if !c.problems.isEmpty then ⟨none, c.problems⟩
    else if c.value.1.isEmpty && c.value.2.isNone then
      .failed (.choice key .nothingToChoose)
    else pure (some (.conditional c.value.1 c.value.2))
  | other => .failed (.choice key (.notAChoice other))

end Overlay.Config
