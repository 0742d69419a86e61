/-
Failures and issues. A failure ends what was being done; an issue is noted
while it goes on.
-/
import Overlay.Config.Problem
import Overlay.File
import Overlay.Xml.Edit

namespace Overlay

open Text

/-- Why something could not be done. -/
inductive Failure
  | malformedPath (why : Address.Malformed)
  | invalidConfiguration (problems : List Problem)
  /-- Templates extend each other in a circle; the names are in the order of
  the visit. -/
  | circularInheritance (names : List String)
  /-- A text is no XML document. -/
  | notWellFormed
  | refusedChange (why : Xml.Refusal)
  /-- The text is no XML document, as told by something else that read it. -/
  | rejectedXml (message : String)
  | baselineFailed (message : String)
  /-- A file could not be read or written. -/
  | file (fault : FileFault)
  | other (message : String)

namespace Failure

/-- The text of a failure. -/
def message : Failure → String
  | .malformedPath why => why.message
  | .invalidConfiguration problems =>
    "configuration is invalid (" ++ toString problems.length
      ++ " problem(s)):\n  - "
      ++ join "\n  - " (problems.map Problem.message)
  | .circularInheritance names =>
    "circular template inheritance: " ++ join " -> " names
  | .notWellFormed => "xml: <parser message>"
  | .refusedChange why => "xml: " ++ why.message
  | .rejectedXml message => "xml: " ++ message
  | .baselineFailed message => "baseline generation failed: " ++ message
  | .file fault => fault.message
  | .other message => message

/-- What is wrong, one text for each problem. -/
def problems : Failure → List String
  | .invalidConfiguration problems => problems.map Problem.message
  | failure => [failure.message]

end Failure

/-- The kinds of issues. -/
inductive IssueKind
  /-- An address points at nothing. -/
  | resolutionMiss
  /-- A computed field has no value. -/
  | computationFailure
  /-- An entry could not be applied. -/
  | applicationFailure
  /-- A condition is malformed and left out. -/
  | conditionSkipped
  /-- A choice could not be applied. -/
  | choiceFailure
  deriving DecidableEq, Repr

/-- The name of a kind. -/
def IssueKind.name : IssueKind → String
  | .resolutionMiss => "resolution-miss"
  | .computationFailure => "computation-failure"
  | .applicationFailure => "application-failure"
  | .conditionSkipped => "condition-skipped"
  | .choiceFailure => "choice-failure"

/-- Something that went wrong on the way. -/
structure Issue where
  kind : IssueKind
  /-- The address, template or choice that it is about. -/
  subject : String
  message : String
  deriving DecidableEq, Repr

/-- An issue on one line. -/
def Issue.render (i : Issue) : String :=
  "[" ++ i.kind.name ++ "] " ++ i.subject ++ ": " ++ i.message

end Overlay
