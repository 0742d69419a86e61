/-
What an address covers, with no cache in sight.

# Answers

Matching runs in a state: patterns with wildcards are cut once and kept.
A cache may hold anything, and it changes with every question; still, the
parts it keeps are those of their pattern. So a question has one answer
whatever the cache is, and `Answers` says which. It passes through the
steps of a computation (`Answers.bind`), so that every function of the
matcher has one lemma: its answer is a plain test of the same name.

# Tests

- `Step.covers`: a step fits an element.
- `stepsCover`: steps fit a chain link by link.
- `Address.covers`: an address fits a chain.

`pick_answers` puts them to use: what is picked from a list of entries is
what a filter leaves of it.
-/
import Mathlib
import Overlay.Address.Resolve

namespace Overlay

open Text Wildcard

-- ============================================================= answers

namespace Wildcard

/-- A computation that gives an answer whatever the cache is. -/
def Answers {α : Type} (x : StateM Cache α) (answer : α) : Prop :=
  ∀ c : Cache, (x.run c).1 = answer

variable {α β : Type}

theorem Answers.pure (a : α) : Answers (pure a) a := fun _ => rfl

theorem Answers.bind {x : StateM Cache α} {f : α → StateM Cache β}
    {a : α} {b : β} (hx : Answers x a) (hf : Answers (f a) b) :
    Answers (x >>= f) b := by
  intro c
  have hrun : ((x >>= f).run c).1 = ((f (x.run c).1).run (x.run c).2).1 :=
    rfl
  rw [hrun, hx c]
  exact hf _

/-- The parts that a cache has for a pattern are its own. -/
theorem parts_entry (c : Cache) (pattern : String) :
    (c.entry pattern).parts = literals pattern := by
  rw [Cache.entry]
  split
  case h_1 e he =>
      have hp : (e.pattern == pattern) = true :=
        List.find?_some (p := fun e : Entry => e.pattern == pattern) he
      rw [e.parts_eq, eq_of_beq hp]
  case h_2 => rfl

/-- A cache does not change what matches. -/
theorem cachedMatch_answers (pattern text : String) :
    Answers (cachedMatch pattern text) (isMatch pattern text) := by
  intro c
  unfold cachedMatch isMatch
  by_cases h : isWild pattern = true
  · have hrun : (matchLiterals (c.entry pattern).parts text.toList)
        = matchLiterals (literals pattern) text.toList := by
      rw [parts_entry]
    simpa [h, StateT.run] using hrun
  · simp [h, StateT.run]

end Wildcard

theorem nameMatches_answers (pattern subject : String) :
    Answers (nameMatches pattern subject) (isMatch pattern subject) := by
  rw [nameMatches]
  by_cases h : isWild pattern = true
  · rw [if_pos h]
    exact cachedMatch_answers pattern subject
  · rw [if_neg h, isMatch, if_neg h]
    exact .pure _

-- =============================================================== tests

/-- Whether a step fits an element. -/
def Step.covers (s : Step) (l : Link) : Bool :=
  isMatch s.name (if s.isPrefixed then l.qualified else l.localName)
    && s.position.all (· == l.position)

/-- Whether steps fit a chain of the same length. -/
def stepsCover (steps : List Step) (links : List Link) : Bool :=
  steps.length == links.length
    && (steps.zip links).all fun (s, l) => s.covers l

/-- Whether an address fits a chain: a rooted path the whole of it, or,
if it does not name the root, the whole of what is below the root; other
paths its end. -/
def Address.covers (a : Address) (chain : List Link) : Bool :=
  match a.shape, a.steps, chain with
  | .rooted, first :: _, root :: below =>
    stepsCover a.steps chain
      || (!first.covers root && stepsCover a.steps below)
  | .rooted, _, _ => false
  | _, steps, chain =>
    decide (steps.length ≤ chain.length)
      && stepsCover steps (chain.drop (chain.length - steps.length))

/-- Whether an address points at an entry. -/
def Address.selects (a : Address) (aliases : Table String)
    (e : IndexEntry) : Bool :=
  a.covers e.chain && a.fitsNamespace aliases e

theorem fits_answers (s : Step) (l : Link) :
    Answers (s.fits l) (s.covers l) :=
  (nameMatches_answers _ _).bind (.pure _)

/-- Steps and links in pairs are matched as without a cache. -/
theorem allFit_answers (pairs : List (Step × Link)) :
    Answers (allFit pairs) (pairs.all fun (s, l) => s.covers l) := by
  induction pairs with
  | nil => exact .pure _
  | cons p rest ih =>
      obtain ⟨s, l⟩ := p
      refine (fits_answers s l).bind ?_
      rw [List.all_cons]
      show Answers _ (s.covers l && _)
      cases s.covers l with
      | false => exact .pure false
      | true => exact ih

theorem stepsFit_answers (steps : List Step) (links : List Link) :
    Answers (stepsFit steps links) (stepsCover steps links) := by
  rw [stepsFit, stepsCover]
  cases steps.length == links.length with
  | false => exact .pure false
  | true => exact allFit_answers _

/-- The end of a chain, for the paths that are not rooted. -/
theorem endFits_answers (steps : List Step) (chain : List Link) :
    Answers
      (if steps.length ≤ chain.length then
        stepsFit steps (chain.drop (chain.length - steps.length))
      else pure false)
      (decide (steps.length ≤ chain.length)
        && stepsCover steps (chain.drop (chain.length - steps.length))) := by
  by_cases h : steps.length ≤ chain.length
  · simp only [h, ↓reduceIte, decide_true, Bool.true_and]
    exact stepsFit_answers _ _
  · simp only [h, ↓reduceIte, decide_false, Bool.false_and]
    exact .pure false

/-- A whole chain is matched as without a cache, from its beginning for a
rooted address and from its end for others. -/
theorem fitsChain_answers (a : Address) (chain : List Link) :
    Answers (a.fitsChain chain) (a.covers chain) := by
  obtain ⟨qualifier, shape, steps, hsteps, attr⟩ := a
  cases shape with
  | dotted => exact endFits_answers steps chain
  | bare => exact endFits_answers steps chain
  | rooted =>
      cases steps with
      | nil => exact absurd rfl hsteps
      | cons first others =>
          cases chain with
          | nil => exact .pure false
          | cons root below =>
              refine (stepsFit_answers (first :: others)
                (root :: below)).bind ?_
              simp only [Address.covers]
              cases stepsCover (first :: others) (root :: below) with
              | true => exact .pure true
              | false =>
                  refine (fits_answers first root).bind ?_
                  cases first.covers root with
                  | true => exact .pure false
                  | false => exact stepsFit_answers _ _

theorem pointsAt_answers (a : Address) (aliases : Table String)
    (e : IndexEntry) : Answers (a.pointsAt aliases e) (a.selects aliases e) :=
  (fitsChain_answers a e.chain).bind (.pure _)

/-- What is picked from entries is what a filter leaves. -/
theorem pick_answers {p : IndexEntry → StateM Cache Bool}
    {q : IndexEntry → Bool} (h : ∀ e, Answers (p e) (q e))
    (entries : List IndexEntry) :
    Answers (pick p entries) ((entries.filter q).map (·.node)) := by
  induction entries with
  | nil => exact .pure _
  | cons e rest ih =>
      refine (h e).bind (ih.bind ?_)
      cases hq : q e with
      | true =>
          rw [List.filter_cons_of_pos hq]
          exact .pure _
      | false =>
          rw [List.filter_cons_of_neg (by simp [hq])]
          exact .pure _

end Overlay
