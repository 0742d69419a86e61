/-
Running commands on a host. A command prints its result and then succeeds or
fails; a failure is told beside the result.
-/
import Overlay.CommandLine.Command
import Overlay.CommandLine.Help
import Overlay.CommandLine.Shell.Run
import Overlay.Config.Settings
import Overlay.Report.Schema

namespace Overlay.CommandLine

open Text

/-- Why a command fails. -/
inductive Complaint
  | failed (why : Failure)
  /-- A configuration cannot be used. -/
  | loading (path : String) (why : Failure)
  | file (doing path : String) (fault : FileFault)
  | settings (word : String)
  | noTool
  | unknownTemplate (name path : String)
  | noConfigurations
  | invalidConfigurations (bad checked : Nat)
  | invalidAddresses (bad : Nat)
  /-- The generation was broken off, and the command with it. -/
  | broken

/-- The complaint about a generation without a result. -/
def Complaint.ofStop : GenerationStop → Complaint
  | .failed why => .failed why
  | .broken => .broken

/-- The text of a complaint. -/
def Complaint.message : Complaint → String
  | .failed why => why.message
  | .loading path why => "loading " ++ path ++ ": " ++ why.message
  | .file doing path fault => doing ++ " " ++ path ++ ": " ++ fault.message
  | .settings word => "xforge.toml: " ++ Mode.unknownMessage word
  | .noTool =>
    "no baseline generator: pass --baseline-cmd or set baseline.command in xforge.toml"
  | .unknownTemplate name path =>
    "template '" ++ name ++ "' is not defined in " ++ path
  | .noConfigurations => "no configuration files found"
  | .invalidConfigurations bad checked =>
    toString bad ++ " of " ++ toString checked
      ++ " configuration file(s) invalid"
  | .invalidAddresses bad => toString bad ++ " invalid path expression(s)"
  | .broken => "range overflow"

variable {m : Type → Type} [Monad m] [Host m]

/-- A part of a command, which may end it. -/
abbrev Job (m : Type → Type) (α : Type) : Type := ExceptT Complaint m α

/-- A value, or the end of a command. -/
def orComplain {ε α : Type} (complain : ε → Complaint) : Except ε α → Job m α
  | .ok value => pure value
  | .error why => throw (complain why)

/-- A line that begins with a mark. -/
def tellMarked (mark text : String) : m Unit := tellLine (mark ++ " " ++ text)

-- ===== files

/-- The name of the settings file. -/
def settingsFile : String := "xforge.toml"

/-- The settings in a file; none if the file cannot be read. -/
def settingsIn (path : String) : m Settings := do
  match ← readText path with
  | .ok text => return (Settings.parse? text).getD {}
  | .error _ => return {}

/-- The settings at hand, and then those of the user. -/
def loadSettings : m Settings := do
  let here ← settingsIn settingsFile
  match ← settingsDirectory with
  | some directory =>
    return here.merge
      (← settingsIn (File.below directory ("xforge/" ++ settingsFile)))
  | none => return here

/-- The configuration in a file. -/
def loadConfig (path : String) : m (Except Failure Config) := do
  return Config.ofFile path (← readText path)

/-- Puts a text into a file, whose directory is made if it has to be. -/
def writeWhole (path text : String) : Job m Unit := do
  let directory := File.parent path
  if directory != "" then
    orComplain (.file "creating" directory) (← makeDirectory directory)
  orComplain (.file "writing" path) (← writeText path text)

-- ===== the log

/-- The name of the log of a day. -/
def logName (day : Calendar.Date) : String :=
  "xforge.log." ++ join "-"
    [Calendar.fourDigits day.year.toNat, Calendar.twoDigits day.month,
      Calendar.twoDigits day.day]

/-- Adds a line to the log of the day in a directory, which is made if the log
cannot be opened without. -/
def logLine (directory line : String) : m (Except FileFault Unit) := do
  let path := File.below directory (logName (← today))
  match ← appendText path (line ++ "\n") with
  | .ok () => return .ok ()
  | .error _ =>
    match ← makeDirectory (File.parent path) with
    | .ok () => appendText path (line ++ "\n")
    | .error fault => return .error fault

-- ===== generations

/-- Where a baseline comes from. -/
inductive BaselineSource
  | file (path : String)
  | tool (name : String) (args : List String)

/-- The arguments by which a tool is told what is asked for. -/
def requestArgs (r : BaselineRequest) : List String :=
  ["--xsd", r.xsd, "--mode", r.mode.name, "--choices",
    (Report.textTable r.choices).compact,
    "--repeats", (Report.countTable r.repeats).compact]

/-- What a tool has printed, if it succeeded. -/
def toolOutput (name : String) : Option ToolResult → Except Failure String
  | none =>
    .error (.baselineFailed ("cannot run '" ++ name ++ "': "
      ++ FileFault.notFound.message))
  | some r =>
    if r.status == 0 then
      match String.fromUTF8? ⟨r.printed.toArray⟩ with
      | some text => .ok text
      | none => .error (.baselineFailed "output is not UTF-8")
    else
      .error (.baselineFailed ("'" ++ name ++ "' exited with exit status: "
        ++ toString r.status
        ++ ": " ++ join "\n" r.messages))

/-- Makes a baseline. -/
def makeBaseline (source : BaselineSource) (r : BaselineRequest) :
    m (Except Failure String) := do
  match source with
  | .file path =>
    return (← readText path).mapError fun fault =>
      .baselineFailed (path ++ ": " ++ fault.message)
  | .tool name args =>
    return toolOutput name (← runTool? name (args ++ requestArgs r))

/-- The mode that is asked for: by the command line, or else by the settings. -/
def requestedMode (run : RunOptions) (settings : Settings) :
    Job m (Option Mode) :=
  match run.mode, settings.mode with
  | some mode, _ => pure (some mode)
  | none, some word => do return some (← orComplain .settings (Mode.parse word))
  | none, none => pure none

/-- How the document is written. -/
def writeOptions (run : RunOptions) (settings : Settings) : Xml.WriteOptions :=
  let output := settings.output.getD {}
  { declaration := !run.noDeclaration && output.declaration.getD true
    indent := if run.compact then none else some (output.indent.getD 2) }

/-- The generation by a configuration. -/
def prepare (xsd : String) (run : RunOptions) (settings : Settings) :
    Job m Generation := do
  let loaded := (← loadConfig run.config).map fun c =>
    { c with seed := run.seed <|> c.seed <|> settings.seed }
  let seed ← freshSeed
  let today ← today
  if run.strict || settings.strict.getD false then
    let config ← orComplain (.loading run.config) loaded
    orComplain .failed (Generation.strict xsd config seed today)
  else return .lenient xsd loaded seed today

/-- A document without white space at its end. -/
def withoutEnd (text : String) : String :=
  String.ofList (dropEndWhile isBlank text.toList)

/-- Tells what a generation has done. -/
def tellOutcome (r : GenerationReport) (elapsed : Nat) : m Unit := do
  r.errors.forM tellLine
  if r.isFallback then
    tellLine "configuration not applied; emitted the baseline document"
  tellMarked "ℹ"
    ((if r.isFallback then "baseline" else "enhanced") ++ " document ("
    ++ r.mode.name ++ " mode): " ++ toString r.applied.length ++ " applied, "
    ++ toString r.skipped.length ++ " skipped, " ++ toString r.errors.length
    ++ " error(s) in " ++ toString elapsed ++ " ms")

/-- Runs a generation, and puts out the document and the report. -/
def runGeneration (source : BaselineSource) (xsd : String) (run : RunOptions)
    (settings : Settings) : Job m Unit := do
  let mode ← requestedMode run settings
  let generation ← prepare xsd run settings
  let generation := { generation with output := writeOptions run settings }
  let request := generation.request mode (Table.ofEntries run.choices)
    (Table.ofEntries run.repeats)
  let started ← clock
  let baseline ← makeBaseline source request
  let (made, _) := generation.run (fun _ => baseline) request
  let result ← orComplain .ofStop made
  let elapsed := (← clock) - started
  match run.out with
  | some path => writeWhole path result.xml
  | none => printLine (withoutEnd result.xml)
  if let some path := run.metadata then
    writeWhole path (Report.ofGeneration result.report elapsed).pretty
  tellOutcome result.report elapsed

/-- Runs `generate`. -/
def runGenerate (xsd : String) (tool : Option String) (args : List String)
    (run : RunOptions)
    (settings : Settings) : Job m Unit := do
  let defaults := settings.baseline.getD {}
  match tool <|> defaults.command with
  | none => throw .noTool
  | some name =>
    let args := if args.isEmpty then defaults.args.getD [] else args
    runGeneration (.tool name args) xsd run settings

-- ===== checks

/-- Whether a file in a directory is checked. -/
def isConfigFile (path : String) : Bool :=
  (File.hasExtension "json" path || File.hasExtension "toml" path)
    && File.name? path != some settingsFile

/-- The files that a path stands for: itself, or the configurations in the
directory. -/
def filesAt (path : String) : m (List String) := do
  if ← isDirectory path then
    return ((← filesBelow path).map (File.below path)).filter isConfigFile
  else return [path]

/-- What is told about a checked file, as text. -/
def tellCheck (c : ConfigCheck) : m Unit := do
  match c.isValid, c.config with
  | true, some k =>
    let counts := k.counts
    printLine ("✔ " ++ c.path ++ " (" ++ toString counts.values ++ " values, "
      ++ toString counts.patterns ++ " patterns, " ++ toString counts.choices
      ++ " choices, "
      ++ toString counts.templates ++ " templates)")
  | _, _ => tellMarked "✖" c.path
  c.problems.forM fun problem => printLine ("  - " ++ problem)
  c.remarks.forM fun remark => printLine ("  ~ " ++ remark)

/-- Runs `check`. -/
def runCheck (paths : List String) (style : ReportStyle) : Job m Unit := do
  let files :=
    (← paths.mapM fun path => (filesAt path : m (List String))).flatten
  let checks ← files.mapM fun path => do
    return ConfigCheck.ofFile path (← readText path)
  match style with
  | .json => printLine (Report.ofChecks checks).pretty
  | .text => checks.forM fun c => tellCheck c
  let bad := (checks.filter (!·.isValid)).length
  if checks.isEmpty then throw .noConfigurations
  if bad > 0 then throw (.invalidConfigurations bad checks.length)

-- ===== addresses

/-- What is told about an address, as text. -/
def tellAddress (text : String) : m Unit :=
  match Address.parse text with
  | .ok a =>
    printLine
      (join "\t" [text, a.kind.name, a.normalize, toString a.precedence.toNat])
  | .error why => tellMarked "✖" (text ++ ": " ++ why.message)

/-- Runs `path`. -/
def runPath (texts : List String) (style : ReportStyle) : Job m Unit := do
  match style with
  | .json => printLine (Json.list (texts.map Report.ofAddress)).pretty
  | .text => texts.forM fun text => tellAddress text
  let bad := (texts.filter fun text => !(Address.parse text).isOk).length
  if bad > 0 then throw (.invalidAddresses bad)

-- ===== templates

/-- Draws some rows of a template, fewer if it has no more. -/
def drawSome (name : String) (count : Nat) : StateM RowSupply (List Row) :=
  Sources.drawRows name count

/-- Draws some rows of each template. -/
def drawAll (count : Nat) :
    List String → StateM RowSupply (List (String × List Row))
  | [] => pure []
  | name :: rest => do
    let rows ← drawSome name count
    return (name, rows) :: (← drawAll count rest)

/-- A number at the right of three places. -/
def inThree (n : Nat) : String :=
  let digits := toString n
  spaces (3 - digits.length) ++ digits

/-- What is told about a template and its rows, as text. -/
def templateLines (summary : Option TemplateSummary) (name : String)
    (rows : List Row) : List String :=
  let head := match summary with
    | some s =>
      let parent := match s.parent with
        | some parent => ", extends " ++ parent
        | none => ""
      name ++ " (" ++ toString s.rows ++ " rows, " ++ s.cycle ++ parent ++ ")"
    | none => name
  head :: rows.zipIdx.map fun (row, i) =>
    "  " ++ inThree (i + 1) ++ "  "
      ++ join ", " (row.map fun (field, text) => field ++ "=" ++ text)

/-- Runs `templates`. -/
def runTemplates (path : String) (only : Option String) (count : Nat)
    (seed : Option Nat)
    (style : ReportStyle) : Job m Unit := do
  let config ← orComplain (.loading path) (← loadConfig path)
  let seed := (seed <|> config.seed).getD (← freshSeed)
  let supply ← orComplain .failed (RowSupply.ofSpecs config.templates seed)
  let names ← match only with
    | some name =>
      if supply.contains name then pure [name]
      else throw (.unknownTemplate name path)
    | none => pure supply.names
  let (drawn, supply) := drawAll count names supply
  match style with
  | .json =>
    printLine
      (Json.list (drawn.map fun (name, rows) => Report.ofRows name rows)).pretty
  | .text =>
    let summaries := supply.summary
    drawn.forM fun (name, rows) =>
      (templateLines (summaries.find? (·.name == name)) name rows).forM
        printLine
  supply.review.forM fun remark => tellLine remark.message
  supply.issues.forM fun issue => tellLine issue.render

-- ===== schemas

/-- The directory of the schemas if none is given. -/
def schemaDirectory : String := "./docs/schemas"

/-- Runs `schema`. -/
def runSchema (outDir : Option String) (settings : Settings) : Job m Unit := do
  let directory :=
    (outDir <|> settings.schema.bind (·.outDir)).getD schemaDirectory
  orComplain (.file "creating" directory) (← makeDirectory directory)
  let written ← Report.forms.mapM fun form => do
    let path := File.below directory (form.stem ++ ".schema.json")
    orComplain (.file "writing" path)
      (← writeText path (form.schema.pretty ++ "\n"))
    return path
  written.forM printLine
  printLine ("✔ " ++ toString written.length ++ " schema(s) written to "
    ++ directory)

-- ===== command lines

/-- Runs a command. -/
def runCommand (command : Command) (settings : Settings) : Job m Unit :=
  match command with
  | .apply input run => runGeneration (.file input) input run settings
  | .generate xsd tool args run => runGenerate xsd tool args run settings
  | .check paths style => runCheck paths style
  | .path texts style => runPath texts style
  | .templates config only count seed style =>
    runTemplates config only count (seed <|> settings.seed) style
  | .schema outDir => runSchema outDir settings

/-- The statuses that a command line ends with. -/
inductive ExitStatus
  | succeeded
  | failed
  /-- The command line itself is wrong. -/
  | misused
  /-- The log cannot be kept, and nothing was done; or the command was broken
  off. -/
  | stopped
  deriving DecidableEq, Repr

/-- The number of a status. -/
def ExitStatus.code : ExitStatus → Nat
  | .succeeded => 0
  | .failed => 1
  | .misused => 2
  | .stopped => 101

/-- Runs a command with these settings. -/
def runLogged (c : CommandForm) (given : Given) (settings : Settings) :
    m ExitStatus := do
  let directory := given.value? "log-dir" <|> settings.log.bind (·.dir)
  let log (line : String) : m (Except FileFault Unit) :=
    match directory with
    | some directory => logLine directory line
    | none => pure (.ok ())
  match ← log ("begin " ++ c.name) with
  | .error fault =>
    tellLine ("cannot keep a log: " ++ fault.message)
    return .stopped
  | .ok () =>
    match ← (runCommand (.ofGiven c given) settings).run with
    | .ok () =>
      let _ ← log ("end " ++ c.name)
      return .succeeded
    | .error .broken =>
      tellLine Complaint.broken.message
      return .stopped
    | .error why =>
      let _ ← log ("end " ++ c.name ++ ": " ++ why.message)
      tellLine ("Error: " ++ why.message)
      return .failed

/-- Runs a command line. -/
def run (args : List String) : m ExitStatus := do
  match grammar.read args with
  | .fault why =>
    tellLine ("error: " ++ why.message)
    return .misused
  | .version =>
    printLine (grammar.name ++ " " ++ grammar.version)
    return .succeeded
  | .help none =>
    print grammar.help
    return .succeeded
  | .help (some c) =>
    print (grammar.helpOn c)
    return .succeeded
  | .helpOnHelp =>
    print grammar.helpOnHelp
    return .succeeded
  | .run c given => runLogged c given (← loadSettings)

end Overlay.CommandLine
