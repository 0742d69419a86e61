/-
Generations that hand the baseline on as it is, and those that are broken
off.

# When they do

Once there is a baseline, two things can be missing: a configuration, or a
document to apply it to. Whether there is a configuration is settled when
generations are built (`enhancement_lenient`): there is none if its text or
its file was refused, or if its templates extend each other in a circle.
Calls do not change that (`isEnhanced_after`).

# What they tell

What is told begins with a report of a generation that failed, and only a
patch replaces it (`complete_of_error`, `complete_of_unreadable`,
`complete_of_parse`). A patch cannot fail any more; so if there is none,
nothing of it is told, and what is left is what went wrong. That is at
least one thing, for whatever makes a configuration and fails says why
(`Config.Outcome.problems_ne_nil`).

# When there is no result

A patch can be broken off by a request of its configuration for an amount
(`Enhancement.Ready.isBroken_patch`). Then nothing is handed on, not even the
baseline (`conclude_complete`).
-/
import Overlay.Proofs.Override.Breaking
import Overlay.Proofs.Replaying

namespace Overlay

open Xml

-- ====================================================== configurations

namespace Generation

variable {g : Generation} {xsd : String} {outcome : Except Failure Config}
  {freshSeed : Nat} {today : Calendar.Date}

/-- Generations by what a maker of configurations has come to, whether one
that cannot be used is refused or left out. -/
def BuiltFrom (g : Generation) (xsd : String)
    (outcome : Except Failure Config) (freshSeed : Nat)
    (today : Calendar.Date) : Prop :=
  (∃ c, outcome = .ok c ∧ strict xsd c freshSeed today = .ok g)
    ∨ g = lenient xsd outcome freshSeed today

theorem BuiltFrom.eq_lenient (h : g.BuiltFrom xsd outcome freshSeed today) :
    g = lenient xsd outcome freshSeed today := by
  rcases h with ⟨c, rfl, h⟩ | h
  · have hby : g.BuiltBy xsd c freshSeed today := .inl h
    exact hby.eq_lenient
  · exact h

theorem BuiltFrom.ready (h : g.BuiltFrom xsd outcome freshSeed today) :
    g.Ready := by
  rcases h with ⟨c, rfl, h⟩ | rfl
  · exact BuiltBy.ready (c := c) (.inl h)
  · cases outcome with
    | ok c => exact BuiltBy.ready (c := c) (.inr rfl)
    | error why =>
        intro e he
        cases he

end Generation

end Overlay
