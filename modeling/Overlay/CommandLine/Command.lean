/-
The commands: their grammar, and what a command line gives to each of them. A
command is taken from what is given to it only after that was read by the
grammar, so its values have the right form.
-/
import Overlay.CommandLine.Reading

namespace Overlay.CommandLine

/-- What `apply` and `generate` have in common. -/
structure RunOptions where
  config : String
  /-- Where the document goes, if not to the result. -/
  out : Option String
  /-- Where the report goes. -/
  metadata : Option String
  mode : Option Mode
  seed : Option Nat
  strict : Bool
  choices : List (String × String)
  repeats : List (String × Nat)
  compact : Bool
  noDeclaration : Bool

/-- How a report is put out. -/
inductive ReportStyle
  | text
  | json
  deriving DecidableEq

/-- A command. -/
inductive Command
  /-- Patches a document in a file. -/
  | apply (input : String) (run : RunOptions)
  /-- Has a tool make a baseline, and patches it. -/
  | generate (xsd : String) (tool : Option String) (args : List String)
      (run : RunOptions)
  | check (paths : List String) (style : ReportStyle)
  | path (texts : List String) (style : ReportStyle)
  | templates (config : String) (only : Option String) (count : Nat)
      (seed : Option Nat)
      (style : ReportStyle)
  | schema (outDir : Option String)

-- ===== the grammar

/-- A value that is a path. -/
def pathValue (name : String) : OptionEffect := .value ⟨name, .path⟩

/-- The options that `apply` and `generate` have in common. -/
def runForms : List OptionForm :=
  [{ long := "config", short := some 'c', effect := pathValue "CONFIG",
     required := true,
      about := "Override configuration (.json or .toml)" },
    { long := "out", short := some 'o', effect := pathValue "OUT",
      about := "Write the XML here instead of stdout" },
    { long := "metadata", effect := pathValue "METADATA",
      about := "Write the generation metadata as JSON here" },
    { long := "mode", effect := .value ⟨"MODE", .mode⟩ },
    { long := "seed", effect := .value ⟨"SEED", .number⟩ },
    { long := "strict",
      about :=
        "Fail on configuration problems instead of emitting the baseline" },
    { long := "choice", effect := .value ⟨"CHOICES", .pair⟩, repeats := true,
      about := "Extra choice for the baseline, `Element=Option` (repeatable)" },
    { long := "repeat", effect := .value ⟨"REPEATS", .repetition⟩,
      repeats := true,
      about :=
        "Extra repeat count for the baseline, `Element=N` (repeatable)" },
    { long := "compact", about := "Single-line output" },
    { long := "no-declaration" }]

/-- The option for the style of a report. -/
def styleForm : OptionForm :=
  { long := "format", effect := .value ⟨"FORMAT", .word ["text", "json"]⟩,
    fallback := some "text" }

/-- The grammar of `apply`. -/
def applyForm : CommandForm :=
  { name := "apply"
    about := "Apply a configuration to an existing XML document"
    options :=
      { long := "input", short := some 'i', effect := pathValue "INPUT",
        required := true,
        about := "Baseline XML document" } :: runForms }

/-- The grammar of `generate`. -/
def generateForm : CommandForm :=
  { name := "generate"
    about :=
      "Run the baseline generator for a schema, then apply the configuration"
    options :=
      [{ long := "xsd", effect := pathValue "XSD", required := true },
        { long := "baseline-cmd", effect := .value ⟨"BASELINE_CMD", .text⟩,
          about :=
            "External baseline generator; falls back to `baseline.command` in xforge.toml" },
        { long := "baseline-arg", effect := .value ⟨"BASELINE_ARGS", .text⟩,
          repeats := true,
          takesAnything := true,
          about :=
            "Extra argument for the baseline generator (repeatable)" }]
            ++ runForms }

/-- The grammar of `check`. -/
def checkForm : CommandForm :=
  { name := "check"
    about := "Validate configuration files or directories of them"
    options := [styleForm]
    operands := some ⟨"PATHS", .path⟩ }

/-- The grammar of `path`. -/
def pathForm : CommandForm :=
  { name := "path"
    about := "Parse path expressions and show kind, normal form and precedence"
    options := [styleForm]
    operands := some ⟨"EXPRS", .text⟩ }

/-- The grammar of `templates`. -/
def templatesForm : CommandForm :=
  { name := "templates"
    about := "Preview the rows a configuration's templates hand out"
    options :=
      [{ long := "config", short := some 'c', effect := pathValue "CONFIG",
         required := true },
        { long := "template", short := some 't',
          effect := .value ⟨"TEMPLATE", .text⟩,
          about := "Only this template" },
        { long := "count", effect := .value ⟨"COUNT", .number⟩,
          fallback := some "5" },
        { long := "seed", effect := .value ⟨"SEED", .number⟩ },
        styleForm] }

/-- The grammar of `schema`. -/
def schemaForm : CommandForm :=
  { name := "schema"
    about := "Write JSON Schemas for the report types"
    options :=
      [{ long := "out-dir", effect := pathValue "OUT_DIR",
          about :=
            "Defaults to `schema.out_dir` from xforge.toml, then ./docs/schemas" }] }

/-- The grammar of the tool. -/
def grammar : Grammar :=
  { name := "xforge"
    version := "0.1.0"
    about := "Declarative overrides for schema-generated XML"
    shared :=
      [{ long := "no-color", about := "Disable coloured output" },
        { long := "quiet", short := some 'q',
          about := "Only log errors to the console" },
        { long := "log-dir", effect := pathValue "LOG_DIR",
          variableName := some "XFORGE_LOG_DIR",
          about := "Also write daily-rotated debug logs into this directory" }]
    helpOption :=
      { long := "help", short := some 'h', effect := .help,
        about := "Print help" }
    versionOption :=
      { long := "version", short := some 'V', effect := .version,
        about := "Print version" }
    commands :=
      [applyForm, generateForm, checkForm, pathForm, templatesForm,
        schemaForm] }

-- ===== the commands

/-- A natural number of 64 bits. -/
def number? (text : String) : Option Nat :=
  Decimal.unsigned? Decimal.wordBound text.toList

/-- The options that `apply` and `generate` have in common. -/
def runOptions (g : Given) : RunOptions :=
  { config := (g.value? "config").getD ""
    out := g.value? "out"
    metadata := g.value? "metadata"
    mode := g.read? "mode" fun text => (Mode.parse text).toOption
    seed := g.read? "seed" number?
    strict := g.has "strict"
    choices := (g.valuesOf "choice").filterMap pair?
    repeats := (g.valuesOf "repeat").filterMap repetition?
    compact := g.has "compact"
    noDeclaration := g.has "no-declaration" }

/-- The style of a report. -/
def style (g : Given) : ReportStyle :=
  if g.value? "format" == some "json" then .json else .text

/-- The command that a command line gives. -/
def Command.ofGiven (c : CommandForm) (g : Given) : Command :=
  match c.name with
  | "apply" => .apply ((g.value? "input").getD "") (runOptions g)
  | "generate" =>
    .generate ((g.value? "xsd").getD "") (g.value? "baseline-cmd")
      (g.valuesOf "baseline-arg")
      (runOptions g)
  | "check" => .check g.operands (style g)
  | "path" => .path g.operands (style g)
  | "templates" =>
    .templates ((g.value? "config").getD "") (g.value? "template")
      ((g.read? "count" number?).getD 5) (g.read? "seed" number?) (style g)
  | _ => .schema (g.value? "out-dir")

end Overlay.CommandLine
