/-
Exclusive choices. A choice names containers by an address, and an option; of
the children of a container only those of the option's name are kept. Which
option a choice takes is decided on a snapshot; after that, the choices are
carried out one after the other, each on the document as the ones before have
left it.
-/
import Overlay.Address.Printer
import Overlay.Address.Resolve
import Overlay.Choice.Condition
import Overlay.Config
import Overlay.Failure

namespace Overlay

open Text Xml

/-- The kinds of choices. -/
inductive ChoiceKind
  /-- By name. -/
  | simple
  /-- By a path from the root. -/
  | pathSpecific
  | conditional
  deriving DecidableEq, Repr

/-- The name of a kind. -/
def ChoiceKind.name : ChoiceKind → String
  | .simple => "simple"
  | .pathSpecific => "path-specific"
  | .conditional => "conditional"

/-- How a choice is decided. -/
inductive Decision
  | fixed (option : String)
  | conditional (rules : List (Condition × String)) (fallback : Option String)

/-- A choice. -/
structure Choice where
  key : String
  target : Address
  kind : ChoiceKind
  decision : Decision

/-- A choice with the option it takes; without one, containers stay as they
are. -/
structure Selection where
  key : String
  target : Address
  kind : ChoiceKind
  selected : Option String
  deriving DecidableEq, Repr

/-- A remark about a choice that did nothing. -/
inductive ChoiceRemark
  | undecided (key : String)
  | noContainer (key target : String)
  | optionMissing (key path option : String)
  deriving DecidableEq, Repr

/-- What is said about a container that lacks an option. -/
def missingOptionText (path option : String) : String :=
  path ++ " has no '" ++ option ++ "' child; left untouched"

/-- The text of a remark. -/
def ChoiceRemark.message : ChoiceRemark → String
  | .undecided key => key ++ ": no condition matched and no default; left as is"
  | .noContainer key target => key ++ ": no element matches '" ++ target ++ "'"
  | .optionMissing key path option =>
    key ++ ": " ++ missingOptionText path option

/-- An element that was removed, and by which choice. -/
structure Removal where
  key : String
  path : String
  deriving DecidableEq, Repr

/-- The text of a removal. -/
def Removal.message (r : Removal) : String := r.key ++ ": removed " ++ r.path

/-- What carrying out selections has done. -/
structure PruneReport where
  selections : List Selection := []
  removed : List Removal := []
  remarks : List ChoiceRemark := []
  deriving Inhabited

/-- The options taken, in the order of the keys. -/
def PruneReport.used (r : PruneReport) : Table String :=
  r.selections.foldl
    (fun t s => match s.selected with
      | some option => Table.insertOrdered s.key option t
      | none => t) []

-- ===== deciding

namespace Choice

/-- The kind of a choice with a fixed option. -/
def fixedKind (target : Address) : ChoiceKind :=
  if target.shape == .rooted && !target.isPattern then .pathSpecific
  else .simple

/-- The issue of a rule whose condition is malformed. -/
def skipped (key : String) (number : Nat) (fault : Condition.Fault) : Issue :=
  ⟨.conditionSkipped, key,
    "condition #" ++ toString number ++ " skipped: " ++ fault.message⟩

/-- The rules of a choice; a rule with a malformed condition is left out and
noted. -/
def readRules (key : String) (rules : List ConditionRule) :
    List (Condition × String) × List Issue :=
  rules.zipIdx.foldl
    (fun (read, issues) (rule, i) =>
      match Condition.parse rule.test with
      | .ok c => (read ++ [(c, rule.choose)], issues)
      | .error fault => (read, issues ++ [skipped key (i + 1) fault])) ([], [])

/-- A choice as it is configured, and what is noted about it. -/
def ofEntry (e : ChoiceEntry) : Choice × List Issue :=
  match e.spec with
  | .fixed option => (⟨e.key, e.target, fixedKind e.target, .fixed option⟩, [])
  | .conditional rules fallback =>
    let (read, issues) := readRules e.key rules
    (⟨e.key, e.target, .conditional, .conditional read fallback⟩, issues)

/-- The option that a choice takes. -/
def decide (s : Snapshot) (c : Choice) : Option String :=
  match c.decision with
  | .fixed option => some option
  | .conditional rules fallback =>
    match rules.find? fun rule => rule.1.holds s with
    | some rule => some rule.2
    | none => fallback

/-- A choice with the option it takes. -/
def select (s : Snapshot) (c : Choice) : Selection :=
  ⟨c.key, c.target, c.kind, c.decide s⟩

end Choice

-- ===== carrying out

/-- A document on which choices are carried out. -/
structure Pruning where
  doc : Document
  resolver : PathResolver
  removed : List Removal := []
  remarks : List ChoiceRemark := []
  issues : List Issue := []

namespace Pruning

/-- Whether an element has the name of an option, with or without its prefix. -/
def isOption (doc : Document) (option : String) (id : Nat) : Bool :=
  doc.localName id == option || (doc.name? id).any fun n =>
    n.qualified == option

/-- Takes an element out. -/
def remove (key : String) (p : Pruning) (id : Nat) : Pruning :=
  let path := p.doc.pathOf id
  match p.doc.detach id with
  | .ok doc => { p with doc := doc, removed := p.removed ++ [⟨key, path⟩] }
  | .error why =>
    { p with
      issues := p.issues
        ++ [⟨.choiceFailure, key, (Failure.refusedChange why).message⟩] }

/-- Keeps the children of a container that have the option's name, if there is
such a child. -/
def pruneContainer (key option : String) (p : Pruning) (container : Nat) :
    Pruning :=
  let children := p.doc.elementChildren container
  if children.any (isOption p.doc option) then
    (children.filter (!isOption p.doc option ·)).foldl (remove key) p
  else
    let path := p.doc.pathOf container
    { p with
      remarks := p.remarks ++ [.optionMissing key path option]
      issues := p.issues
        ++ [⟨.choiceFailure, key, missingOptionText path option⟩] }

/-- Carries out a selection. -/
def carryOut (p : Pruning) (s : Selection) : Pruning :=
  match s.selected with
  | none => { p with remarks := p.remarks ++ [.undecided s.key] }
  | some option =>
    let (found, resolver) :=
      PathResolver.resolve (.ofDocument p.doc) s.target p.resolver
    let p := { p with resolver := resolver }
    match found.filter p.doc.isAttached with
    | [] =>
      { p with remarks := p.remarks ++ [.noContainer s.key s.target.normalize] }
    | containers => containers.foldl (pruneContainer s.key option) p

end Pruning

/-- All choices of a configuration, and what was noted about them. -/
structure Choices where
  list : List Choice
  resolver : PathResolver
  issues : List Issue := []
  deriving Inhabited

namespace Choices

/-- The choices of a configuration. -/
def ofEntries (entries : List ChoiceEntry) (aliases : Table String) : Choices :=
  let read := entries.map Choice.ofEntry
  { list := read.map (·.1), resolver := .ofAliases aliases,
    issues := read.flatMap (·.2) }

/-- The number of choices. -/
def size (c : Choices) : Nat := c.list.length

/-- The options that do not depend on values, under the names of their targets.
-/
def fixedOptions (c : Choices) : Table String :=
  c.list.foldl
    (fun t choice => match choice.decision with
      | .fixed option =>
        Table.insertOrdered choice.target.target.localName option t
      | .conditional _ _ => t) []

/-- All choices with the options they take. -/
def select (c : Choices) (s : Snapshot) : List Selection :=
  c.list.map (Choice.select s)

/-- Carries out selections on a document. -/
def prune (c : Choices) (doc : Document) (selections : List Selection) :
    PruneReport × Document × Choices :=
  let done :=
    selections.foldl Pruning.carryOut { doc := doc, resolver := c.resolver }
  (⟨selections, done.removed, done.remarks⟩, done.doc,
    { c with resolver := done.resolver, issues := c.issues ++ done.issues })

/-- Decides all choices on a document as it is, and carries them out. -/
def apply (c : Choices) (doc : Document) : PruneReport × Document × Choices :=
  c.prune doc (c.select (.capture doc))

/-- Takes the notes. -/
def takeIssues (c : Choices) : List Issue × Choices :=
  (c.issues, { c with issues := [] })

end Choices

end Overlay
