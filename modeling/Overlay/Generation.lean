/-
Generation of documents: a baseline document, made elsewhere, is patched by a
configuration. A configuration that cannot be used, or a baseline that is no
document, never stops a generation: the baseline is then handed on as it is,
and the report says why.

A generation without a result has either failed, if there is no baseline, or
it was broken off by a draw that could not be carried out.
-/
import Overlay.Choice.Prune
import Overlay.Config.Reader
import Overlay.Override
import Overlay.Xml.Reader
import Overlay.Xml.Writer

namespace Overlay

/-- What the maker of baselines is asked for. -/
structure BaselineRequest where
  /-- The schema that the baseline is made for. -/
  xsd : String
  mode : Mode
  /-- The options of choices, by the names of elements and in their order. -/
  choices : Table String
  /-- How often elements are repeated, by their names and in their order. -/
  repeats : Table Nat
  deriving DecidableEq, Repr

/-- What a generation has made. -/
inductive GenerationKind
  /-- The baseline with the configuration applied. -/
  | enhanced
  /-- The baseline alone. -/
  | base
  deriving DecidableEq, Repr

/-- The name of a kind. -/
def GenerationKind.name : GenerationKind → String
  | .enhanced => "enhanced"
  | .base => "base"

/-- What is told about a generation. -/
structure GenerationReport where
  kind : GenerationKind
  mode : Mode
  /-- Whether the baseline was handed on as it is. -/
  isFallback : Bool
  /-- What was applied, in order of time. -/
  applied : List String := []
  /-- What matched nothing, or was left to a more specific entry. -/
  skipped : List String := []
  /-- What went wrong without stopping the generation, in order of time. -/
  errors : List String := []
  choicesUsed : Table String
  repeatsUsed : Table Nat
  deriving DecidableEq, Repr

/-- A generated document and what is told about it. -/
structure GenerationResult where
  xml : String
  report : GenerationReport
  deriving DecidableEq, Repr

/-- Why a generation has no result. -/
inductive GenerationStop
  /-- There is no baseline. -/
  | failed (why : Failure)
  /-- An amount was asked for whose range is too wide for draws. -/
  | broken

/-- A configuration that is ready for use. -/
structure Enhancement where
  overrides : Overrides
  choices : Choices
  /-- What was noted while the choices were read; it is told with every
  generation. -/
  notes : List Issue

namespace Enhancement

/-- A configuration made ready. Templates that extend each other in a circle
are refused. -/
def ofConfig (c : Config) (freshSeed : Nat) (today : Calendar.Date) :
    Except Failure Enhancement := do
  let (notes, choices) :=
    (Choices.ofEntries c.choices c.namespaces.prefixes).takeIssues
  let overrides ← Overrides.ofConfig c freshSeed today
  return { overrides := overrides, choices := choices, notes := notes }

/-- The entries of two tables in the order of the names, the second one
deciding. -/
def merged {α : Type} (t more : Table α) : Table α :=
  more.foldl (fun t (name, value) => Table.insertOrdered name value t) t

/-- A document patched, with the report of a base generation completed. Random
values begin anew. -/
def patch (e : Enhancement) (doc : Xml.Document) (report : GenerationReport) :
    Xml.Document × GenerationReport × Enhancement :=
  let (log, doc, overrides) := e.overrides.reset.apply doc
  let (pruned, doc, choices) := e.choices.apply doc
  let (issues, choices) := choices.takeIssues
  (doc,
    { report with
      kind := .enhanced
      isFallback := false
      applied := report.applied ++ log.applied
        ++ pruned.removed.map Removal.message
      skipped := report.skipped ++ log.skipped
        ++ pruned.remarks.map ChoiceRemark.message
      errors := report.errors ++ (log.issues ++ issues).map Issue.render
      choicesUsed := merged report.choicesUsed pruned.used },
    { e with overrides := overrides, choices := choices })

/-- Whether the stream of the last patch was broken off. -/
def isBroken (e : Enhancement) : Bool :=
  e.overrides.sources.values.stream.isBroken

end Enhancement

/-- Generations for a schema, one after the other. -/
structure Generation where
  xsd : String
  /-- The mode of a generation that does not ask for another one. -/
  mode : Mode
  output : Xml.WriteOptions := {}
  /-- The configuration, or why there is none. -/
  enhancement : Except (List String) Enhancement

namespace Generation

/-- Generations by a configuration; one that cannot be used is refused. -/
def strict (xsd : String) (c : Config) (freshSeed : Nat)
    (today : Calendar.Date) : Except Failure Generation := do
  let e ← Enhancement.ofConfig c freshSeed today
  return { xsd := xsd, mode := c.mode, enhancement := .ok e }

/-- Generations by a configuration, or without one if it cannot be used. -/
def lenient (xsd : String) (c : Except Failure Config) (freshSeed : Nat)
    (today : Calendar.Date) : Generation :=
  match c >>= fun c => strict xsd c freshSeed today with
  | .ok g => g
  | .error why =>
    { xsd := xsd, mode := .complete, enhancement := .error why.problems }

/-- Whether there is a configuration. -/
def isEnhanced (g : Generation) : Bool := g.enhancement.isOk

/-- The options and repetitions that the configuration asks for. -/
def defaults (g : Generation) : Table String × Table Nat :=
  match g.enhancement with
  | .ok e => (e.choices.fixedOptions, e.overrides.config.repeats)
  | .error _ => ([], [])

/-- What the maker of baselines is asked for. What the caller gives goes before
the configuration. -/
def request (g : Generation) (mode : Option Mode) (choices : Table String)
    (repeats : Table Nat) : BaselineRequest :=
  { xsd := g.xsd
    mode := mode.getD g.mode
    choices := Enhancement.merged g.defaults.1 choices
    repeats := Enhancement.merged g.defaults.2 repeats }

/-- What is told if nothing is enhanced. -/
def baseReport (request : BaselineRequest) (errors : List String) :
    GenerationReport :=
  { kind := .base
    mode := request.mode
    isFallback := true
    errors := errors
    choicesUsed := request.choices
    repeatsUsed := request.repeats }

/-- The issue of a baseline that is no document. -/
def unreadableBaseline : Issue :=
  ⟨.applicationFailure, "document", Failure.notWellFormed.message⟩

/-- Completes a generation with its baseline. -/
def complete (g : Generation) (request : BaselineRequest) (baseline : String) :
    GenerationResult × Generation :=
  match g.enhancement with
  | .error problems => (⟨baseline, baseReport request problems⟩, g)
  | .ok e =>
    let notes := e.notes.map Issue.render
    match Xml.Document.parse baseline with
    | none =>
      (⟨baseline, baseReport request (notes ++ [unreadableBaseline.render])⟩, g)
    | some doc =>
      let (doc, report, e) := e.patch doc (baseReport request notes)
      (⟨doc.write g.output, report⟩, { g with enhancement := .ok e })

/-- The failure to make a baseline. -/
def baselineFailure : Failure → Failure
  | .baselineFailed message => .baselineFailed message
  | why => .baselineFailed why.message

/-- What comes of a generation that was completed. A baseline that is handed on
is not concerned by what was drawn for another one. -/
def conclude (g : Generation) (result : GenerationResult) :
    Except GenerationStop GenerationResult :=
  match result.report.kind, g.enhancement with
  | .enhanced, .ok e => if e.isBroken then .error .broken else .ok result
  | _, _ => .ok result

/-- Runs a generation with a maker of baselines. -/
def run (g : Generation) (baseline : BaselineRequest → Except Failure String)
    (request : BaselineRequest) :
    Except GenerationStop GenerationResult × Generation :=
  match baseline request with
  | .error why => (.error (.failed (baselineFailure why)), g)
  | .ok text =>
    let (result, g) := g.complete request text
    (g.conclude result, g)

end Generation

end Overlay
