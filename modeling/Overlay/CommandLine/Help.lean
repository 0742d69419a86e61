/-
Help texts. Options stand in the order in which they are declared, those that
are shared among the others by their own numbers; what they are for begins in
one column, and no line is broken.
-/
import Overlay.CommandLine.Reading

namespace Overlay.CommandLine

open Text

/-- A number of spaces. -/
def spaces (n : Nat) : String := String.ofList (List.replicate n ' ')

/-- What is added to the text about an option. -/
def OptionForm.remarks (o : OptionForm) : List String :=
  let source := match o.variableName with
    | some name => ["[env: " ++ name ++ "=]"]
    | none => []
  let fallback := match o.fallback with
    | some text => ["[default: " ++ text ++ "]"]
    | none => []
  let words := match o.value? with
    | some ⟨_, .word allowed⟩ =>
      ["[possible values: " ++ join ", " allowed ++ "]"]
    | _ => []
  source ++ fallback ++ words

/-- The text about an option. -/
def OptionForm.text (o : OptionForm) : String :=
  join " " (if o.about == "" then o.remarks else o.about :: o.remarks)

/-- An option at the beginning of its line. -/
def OptionForm.head (o : OptionForm) : String :=
  match o.short with
  | some c => String.ofList ['-', c] ++ ", " ++ o.label
  | none => spaces 4 ++ o.label

/-- Where an option comes among those of the same number. -/
def OptionForm.sortKey (o : OptionForm) : String :=
  match o.short with
  | some c =>
    String.ofList [asciiLower c, if asciiLower c == c then '0' else '1']
  | none => o.long

/-- Options with their numbers in order. -/
def arranged (options : List (Nat × OptionForm)) : List OptionForm :=
  (options.mergeSort fun a b =>
    a.1 < b.1 || (a.1 == b.1 && a.2.sortKey ≤ b.2.sortKey)).map (·.2)

/-- The number of an option that comes after all others. -/
def lastNumber : Nat := 999

/-- Options with their numbers. -/
def numbered (options : List OptionForm) : List (Nat × OptionForm) :=
  options.zipIdx.map fun (o, i) => (i, o)

/-- The length of the longest of some texts. -/
def longest (texts : List String) : Nat := (texts.map String.length).foldl max 2

/-- The lines about options. -/
def optionLines (options : List OptionForm) : List String :=
  let width := longest (options.map OptionForm.label)
  options.map fun o => spaces 2 ++ o.head
    ++ spaces (width + 2 - o.label.length) ++ o.text

/-- The lines about commands. -/
def commandLines (commands : List (String × String)) : List String :=
  let width := longest (commands.map (·.1))
  commands.map fun (name, about) => spaces 2 ++ name
    ++ spaces (width + 2 - name.length) ++ about

/-- A chapter of a help text. -/
def chapter (title : String) (lines : List String) : String :=
  join "\n" ((title ++ ":") :: lines)

/-- A help text. -/
def helpText (about usage : String) (chapters : List String) : String :=
  join "\n\n" ([about, "Usage: " ++ usage] ++ chapters) ++ "\n"

namespace Grammar

/-- What is said about the command that asks for help. -/
def helpAbout : String :=
  "Print this message or the help of the given subcommand(s)"

/-- The help text of the whole. -/
def help (g : Grammar) : String :=
  let options := numbered g.shared
    ++ [(lastNumber, g.helpOption), (lastNumber, g.versionOption)]
  helpText g.about (g.name ++ " [OPTIONS] <COMMAND>")
    [chapter "Commands"
      (commandLines (g.commands.map (fun c => (c.name, c.about))
        ++ [(helpCommand, helpAbout)])),
      chapter "Options" (optionLines (arranged options))]

/-- How a command is used. -/
def usage (g : Grammar) (c : CommandForm) : String :=
  let operands := match c.operands with
    | some form => [form.label]
    | none => []
  join " " ([g.name, c.name, "[OPTIONS]"]
    ++ (c.options.filter (·.required)).map OptionForm.label ++ operands)

/-- The help text of a command. -/
def helpOn (g : Grammar) (c : CommandForm) : String :=
  let options :=
    numbered c.options ++ numbered g.shared ++ [(lastNumber, g.helpOption)]
  let operands := match c.operands with
    | some form => [chapter "Arguments" [spaces 2 ++ form.label ++ spaces 2]]
    | none => []
  helpText c.about (g.usage c)
    (operands ++ [chapter "Options" (optionLines (arranged options))])

/-- The help text of the command that asks for help. -/
def helpOnHelp (g : Grammar) : String :=
  helpText helpAbout (g.name ++ " " ++ helpCommand ++ " [COMMAND]...")
    [chapter "Arguments" ["  [COMMAND]...  Print help for the subcommand(s)"]]

end Grammar

end Overlay.CommandLine
