/-
What happens in a pass, event by event in order of time. Each event knows what
is told of it: as something applied, as something skipped, or as an issue; a
write on its own is not told.
-/
import Overlay.Failure
import Overlay.Override.Plan

namespace Overlay

/-- A place of a document that values are written to: the direct text of an
element, or one of its attributes. -/
structure Slot where
  node : Nat
  attr : Option String
  deriving DecidableEq, Repr

/-- A value for a slot. -/
structure Write where
  /-- The key of the entry that asks for it. -/
  key : String
  slot : Slot
  precedence : UInt32
  value : String
  deriving DecidableEq, Repr

/-- The write that a slot holds. -/
structure Claim where
  key : String
  precedence : UInt32
  deriving DecidableEq, Repr

/-- Why an entry did not reach anything. -/
inductive Miss
  | noElement
  | noAttribute
  /-- The value, as it was written, has no text. -/
  | noValue (raw : String)
  deriving DecidableEq, Repr

/-- The text of a miss. -/
def Miss.message : Miss → String
  | .noElement => "matched no element"
  | .noAttribute => "matched no attribute"
  | .noValue raw => "'" ++ raw ++ "' produced no value"

/-- Something that happens in a pass. Paths are those at the time of the event.
-/
inductive Event
  | written (w : Write)
  /-- A write to a slot that holds a more specific one. -/
  | shadowed (w : Write) (path : String) (holder : Claim)
  | refused (w : Write) (path : String) (why : Xml.Refusal)
  | missed (key : String) (miss : Miss)
  | malformed (key : String) (why : Address.Malformed)
  /-- An assignment is through; it has written something. -/
  | assigned (a : Assignment) (count : Nat)
  | declared (name uri : String)
  | undeclared (name : String) (why : Xml.Refusal)
  | notRenamed (key path : String) (why : Xml.Refusal)
  /-- A rule for prefixes is through; it has renamed something. -/
  | prefixed (rule : PrefixRule) (count : Nat)

namespace Event

/-- The text of an event that applies something. -/
def applied? : Event → Option String
  | .assigned a count =>
    let ending := if count == 1 then " target)" else " targets)"
    some (a.phase.name ++ ": " ++ a.key ++ " = " ++ a.value.raw ++ " ("
      ++ toString count ++ ending)
  | .declared name uri => some ("namespaces: " ++ name ++ "=\"" ++ uri ++ "\"")
  | .prefixed rule count =>
    some ("namespaces: " ++ rule.key ++ " -> prefix '" ++ rule.nsPrefix
      ++ "' (" ++ toString count ++ " elements)")
  | _ => none

/-- The text of an event that skips something. -/
def skipped? : Event → Option String
  | .shadowed w path holder =>
    some (w.key ++ ": " ++ path ++ " shadowed by '" ++ holder.key
      ++ "' (precedence " ++ toString holder.precedence ++ " > "
      ++ toString w.precedence ++ ")")
  | .missed key miss => some (Issue.mk .resolutionMiss key miss.message).render
  | _ => none

/-- The issue of an event that fails. -/
def issue? : Event → Option Issue
  | .refused w path why =>
    some ⟨.applicationFailure, w.key, path ++ ": "
      ++ (Failure.refusedChange why).message⟩
  | .malformed key why =>
    some ⟨.applicationFailure, key, (Failure.malformedPath why).message⟩
  | .undeclared name why =>
    some ⟨.applicationFailure, name, (Failure.refusedChange why).message⟩
  | .notRenamed key path why =>
    some ⟨.applicationFailure, key, path ++ ": "
      ++ (Failure.refusedChange why).message⟩
  | _ => none

/-- The write that an event is about, whatever became of it. -/
def write? : Event → Option Write
  | .written w => some w
  | .shadowed w _ _ => some w
  | .refused w _ _ => some w
  | _ => none

end Event

/-- What a pass did: its events, and the notes on computed fields. -/
structure PassReport where
  events : List Event
  notes : List Issue

namespace PassReport

/-- What was applied. -/
def applied (r : PassReport) : List String := r.events.filterMap Event.applied?

/-- What was skipped. -/
def skipped (r : PassReport) : List String := r.events.filterMap Event.skipped?

/-- What went wrong. -/
def issues (r : PassReport) : List Issue :=
  r.events.filterMap Event.issue? ++ r.notes

end PassReport

end Overlay
