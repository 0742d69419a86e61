/-
One more entry whose text cannot stand in a document.

A literal with a character that no document may have is refused wherever
it is written. It does not draw on anything either, so an entry that asks
for it leaves the rest of the pass as it is: the documents that come out
are the same, and so is what is told, except for what the entry is told
itself (`apply_of_adds`).

# One entry

`Pass.Declined key p q` says what is left of an entry with that key when
it is through: `q` has noted some events more than `p`, which turn the
entry down, and it may have looked up more. Each function of a pass on the
way to the refused write declines (`write_declined` up to
`carryOut_declined`).

# The rest of the pass

What comes after the entry reads neither the events (`Appending`) nor what
is in the cache (`Forgetting`), so it does the same in both passes.

# The place of the entry

The tasks of a pass are sorted, and sorting is stable: the plan of the
larger configuration is that of the smaller one with a task put in
(`Config.Adds.plan`).
-/
import Overlay.Proofs.Override.Appending
import Overlay.Proofs.Override.Forgetting
import Overlay.Proofs.Override.Passing

namespace Overlay

open Text Xml Wildcard

-- ========================================================== turned down

namespace Pass

/-- A pass that has noted some events more. -/
def noting (p : Pass) (new : List Event) : Pass :=
  { p with events := p.events ++ new }

/-- Whether a pass `q` is what is left of `p` when an entry was turned
down. -/
def Declined (key : String) (p q : Pass) : Prop :=
  ∃ cache new, q = (p.withCache cache).noting new
    ∧ ∀ e ∈ new, e.Declines key

variable {key : String} {p q r : Pass}

namespace Declined

theorem refl (key : String) (p : Pass) : Declined key p p :=
  ⟨p.resolver.cache, [], by simp [noting, withCache, PathResolver.withCache],
    by simp⟩

theorem trans (h : Declined key p q) (h' : Declined key q r) :
    Declined key p r := by
  obtain ⟨cache, new, rfl, hnew⟩ := h
  obtain ⟨cache', new', rfl, hnew'⟩ := h'
  refine ⟨cache', new ++ new', ?_, fun e he => ?_⟩
  · simp [noting, withCache, PathResolver.withCache]
  · rcases List.mem_append.mp he with he | he
    · exact hnew e he
    · exact hnew' e he

/-- Looking something up may fill the cache. -/
theorem lookup (p : Pass) {resolver : PathResolver}
    (h : resolver.aliases = p.resolver.aliases) :
    Declined key p { p with resolver := resolver } := by
  refine ⟨resolver.cache, [], ?_, by simp⟩
  simp [noting, withCache, PathResolver.withCache, ← h]

theorem note (h : Declined key p q) {e : Event} (he : e.Declines key) :
    Declined key p (q.note e) := by
  refine h.trans ⟨q.resolver.cache, [e], rfl, ?_⟩
  simpa using he

end Declined

/-- What no tally counts as written is declined as well. -/
structure DeclinedBy (key : String) (acc acc' : Pass × Tally) : Prop where
  pass : Declined key acc.1 acc'.1
  written : acc'.2.written = acc.2.written

variable {acc acc' : Pass × Tally}

/-- Steps that decline make a list of steps that declines. -/
theorem DeclinedBy.foldl {β : Type} (run : Pass × Tally → β → Pass × Tally)
    (hstep : ∀ acc x, DeclinedBy key acc (run acc x)) (xs : List β)
    (acc : Pass × Tally) : DeclinedBy key acc (xs.foldl run acc) := by
  induction xs generalizing acc with
  | nil => exact ⟨.refl key acc.1, rfl⟩
  | cons x xs ih =>
      have hx := hstep acc x
      have hxs := ih (run acc x)
      exact ⟨hx.pass.trans hxs.pass, hxs.written.trans hx.written⟩

-- ====================================================== a refused write

/-- A write that is not valid is turned down, if only by a more specific
one. -/
theorem write_declined {w : Write} (hw : w.isValid = false) (p : Pass) :
    Declined w.key p (p.write w).1 ∧ (p.write w).2 = false := by
  obtain ⟨why, hwhy⟩ := put_of_not_isValid p.doc hw
  rcases write_outcome w p with ⟨e, he, hwrite⟩ | ⟨doc, hput, -⟩
  · rw [hwrite]
    exact ⟨(Declined.refl w.key p).note he, rfl⟩
  · cases hwhy.symm.trans hput

variable {a : Assignment} {text : String}

/-- Giving a slot a text that is not valid. -/
theorem assignSlot_declined (hvalue : a.value = .literal text)
    (htext : text.toList.all isXmlChar = false) (k : Nat)
    (acc : Pass × Tally) (slot : Slot) :
    DeclinedBy a.key acc (assignSlot a k acc slot) := by
  have hw : Write.isValid ⟨a.key, slot, a.address.precedence, text⟩
      = false := by
    rw [Write.isValid, htext, Bool.false_and]
  obtain ⟨hpass, hwritten⟩ := write_declined hw acc.1
  have hslot : assignSlot a k acc slot
      = writeCounted ⟨a.key, slot, a.address.precedence, text⟩
        (found acc) := by
    rw [assignSlot, hvalue]
    rfl
  rw [hslot]
  exact ⟨hpass, by simp [writeCounted, found, hwritten]⟩

/-- Giving it to an element, or to attributes of it. -/
theorem assignElement_declined (hvalue : a.value = .literal text)
    (htext : text.toList.all isXmlChar = false) (acc : Pass × Tally)
    (node k : Nat) : DeclinedBy a.key acc (assignElement a acc node k) := by
  have hslot := assignSlot_declined hvalue htext k
  unfold assignElement
  cases a.address.attr with
  | some pattern =>
      have htargets : Declined a.key acc.1
          (attributeTargets pattern a.creates node acc.1).2 := by
        rw [attributeTargets]
        split
        · exact Declined.lookup acc.1 (matching_aliases _ _ _)
        · split <;> exact .refl _ _
      have hslots := DeclinedBy.foldl _ hslot
        ((attributeTargets pattern a.creates node acc.1).1.map
          fun name => (⟨node, some name⟩ : Slot))
        ((attributeTargets pattern a.creates node acc.1).2, acc.2)
      exact ⟨htargets.trans hslots.pass, hslots.written⟩
  | none =>
      simp only [hvalue]
      exact hslot acc ⟨node, none⟩

/-- An assignment that writes nothing notes no more than a miss. -/
theorem conclude_declined (h : Declined a.key p acc.1)
    (hwritten : acc.2.written = 0) :
    Declined a.key p (concludeAssignment a acc) := by
  simp only [concludeAssignment, hwritten, Nat.lt_irrefl, gt_iff_lt,
    ↓reduceIte]
  split
  · exact h.note ⟨rfl, rfl, .inl rfl⟩
  · exact h

/-- An assignment of a text that is not valid is turned down. -/
theorem assign_declined (hvalue : a.value = .literal text)
    (htext : text.toList.all isXmlChar = false) (index : ElementIndex)
    (p : Pass) : Declined a.key p (p.assign index a) := by
  have hresolve : Declined a.key p (p.resolve index a.address).2 :=
    .lookup p rfl
  simp only [assign]
  split
  · exact hresolve.note ⟨rfl, rfl, .inl rfl⟩
  · have helements := DeclinedBy.foldl
      (fun acc (x : Nat × Nat) => assignElement a acc x.1 x.2)
      (fun acc x => assignElement_declined hvalue htext acc x.1 x.2)
      (p.resolve index a.address).1.zipIdx
      ((p.resolve index a.address).2, {})
    exact conclude_declined (hresolve.trans helements.pass)
      helements.written

end Pass

-- ============================================================= sorting

section Sorting

variable {α : Type} {le : α → α → Bool}

/-- A list splits in one way only into what has a property and what does
not. -/
theorem split_unique (p : α → Bool) {front back front' back' : List α}
    (hfront : ∀ x ∈ front, p x = true) (hback : ∀ x ∈ back, p x = false)
    (hfront' : ∀ x ∈ front', p x = true)
    (hback' : ∀ x ∈ back', p x = false)
    (h : front ++ back = front' ++ back') :
    front = front' ∧ back = back' := by
  have hfilter : ∀ {xs ys : List α}, (∀ x ∈ xs, p x = true) →
      (∀ y ∈ ys, p y = false) → (xs ++ ys).filter p = xs := by
    intro xs ys hxs hys
    rw [List.filter_append, List.filter_eq_self.mpr hxs,
      List.filter_eq_nil_iff.mpr (by simpa using hys), List.append_nil]
  have heq : front = front' := by
    rw [← hfilter hfront hback, h, hfilter hfront' hback']
  subst heq
  exact ⟨rfl, List.append_cancel_left h⟩

variable (htrans : ∀ a b c, le a b = true → le b c = true → le a c = true)
  (htotal : ∀ a b, (le a b || le b a) = true)
include htrans htotal

/-- The first one of a list is sorted in between what comes before it and
what does not. -/
theorem mergeSort_cons_split (a : α) (xs : List α) :
    ∃ front back, (a :: xs).mergeSort le = front ++ a :: back
      ∧ xs.mergeSort le = front ++ back
      ∧ (∀ x ∈ front, (!le a x) = true) ∧ ∀ x ∈ back, (!le a x) = false := by
  obtain ⟨front, back, hcons, hrest, hfront⟩ :=
    List.mergeSort_cons htrans htotal a xs
  have hsorted := List.pairwise_mergeSort htrans htotal (a :: xs)
  rw [hcons] at hsorted
  have hback := (List.pairwise_append.mp hsorted).2.1
  rw [List.pairwise_cons] at hback
  exact ⟨front, back, hcons, hrest, hfront,
    fun x hx => by simp [hback.1 x hx]⟩

/-- One more in a list is one more in the sorted list. -/
theorem mergeSort_insert (before after : List α) (e : α) :
    ∃ front back, (before ++ e :: after).mergeSort le = front ++ e :: back
      ∧ (before ++ after).mergeSort le = front ++ back := by
  induction before with
  | nil =>
      obtain ⟨front, back, hcons, hrest, -⟩ :=
        mergeSort_cons_split htrans htotal e after
      exact ⟨front, back, hcons, hrest⟩
  | cons b before ih =>
      obtain ⟨front, back, hmore, hplain⟩ := ih
      obtain ⟨l, l', hl, hsplit, hlow, hhigh⟩ :=
        mergeSort_cons_split htrans htotal b (before ++ e :: after)
      obtain ⟨m, m', hm, hsplit', hlow', hhigh'⟩ :=
        mergeSort_cons_split htrans htotal b (before ++ after)
      rw [List.cons_append, List.cons_append, hl, hm]
      rw [hmore] at hsplit
      rw [hplain] at hsplit'
      rcases List.append_eq_append_iff.mp hsplit with
        ⟨xs, rfl, hxs⟩ | ⟨xs, rfl, rfl⟩
      · -- `b` comes in behind `front`, so behind `e` or right before it
        rcases xs with _ | ⟨x, xs⟩
        · obtain rfl : l' = e :: back := hxs.symm
          rw [List.append_nil] at hlow
          obtain ⟨rfl, rfl⟩ := split_unique (!le b ·) hlow
            (fun y hy => hhigh y (List.mem_cons_of_mem _ hy))
            hlow' hhigh' hsplit'
          exact ⟨front ++ [b], back, by simp, by simp⟩
        · obtain ⟨rfl, rfl⟩ : x = e ∧ back = xs ++ l' := by
            simpa [eq_comm] using hxs
          rw [← List.append_assoc] at hsplit'
          obtain ⟨rfl, rfl⟩ := split_unique (!le b ·)
            (fun y hy => hlow y (by grind)) hhigh hlow' hhigh' hsplit'
          exact ⟨front, xs ++ b :: l', by simp, by simp⟩
      · -- `b` comes in before `e`
        rw [List.append_assoc] at hsplit'
        obtain ⟨rfl, rfl⟩ := split_unique (!le b ·) hlow
          (fun y hy => hhigh y (by grind)) hlow' hhigh' hsplit'
        exact ⟨l ++ b :: xs, back, by simp, by simp⟩

end Sorting

-- ============================================================= the plan

/-- One more entry is one more when they are sorted. -/
theorem bySpecificity_insert (before after : List ValueEntry)
    (e : ValueEntry) :
    ∃ front back, bySpecificity (before ++ e :: after) = front ++ e :: back
      ∧ bySpecificity (before ++ after) = front ++ back := by
  refine mergeSort_insert (fun a b c hab hbc => ?_) (fun a b => ?_) ..
  · rw [decide_eq_true_eq] at hab hbc ⊢
    exact UInt32.le_trans hab hbc
  · rw [Bool.or_eq_true, decide_eq_true_eq, decide_eq_true_eq]
    exact UInt32.le_total _ _

/-- So it is one task more. -/
theorem phaseTasks_insert (phase : Phase) (before after : List ValueEntry)
    (e : ValueEntry) :
    ∃ front back, phaseTasks phase (before ++ e :: after)
        = front ++ .assign (e.assignment phase) :: back
      ∧ phaseTasks phase (before ++ after) = front ++ back := by
  obtain ⟨front, back, hmore, hplain⟩ := bySpecificity_insert before after e
  exact ⟨_, _, by rw [phaseTasks, hmore, List.map_append, List.map_cons],
    by rw [phaseTasks, hplain, List.map_append]⟩

namespace Config

/-- Whether a configuration is another one with one entry more, which asks
for a literal. -/
inductive Adds (c : Config) (key text : String) : Config → Prop
  | value (address : Address) {before after : List ValueEntry}
    (h : c.values = before ++ after) :
    Adds c key text { c with
      values := before ++ ⟨key, address, .literal text⟩ :: after }
  | pattern (address : Address) {before after : List ValueEntry}
    (h : c.patterns = before ++ after) :
    Adds c key text { c with
      patterns := before ++ ⟨key, address, .literal text⟩ :: after }
  | selector (selector : Selector) {before after : List AttributeEntry}
    (h : c.attributes = before ++ after) :
    Adds c key text { c with
      attributes := before ++ ⟨key, selector, .literal text⟩ :: after }

/-- Whether a task is all that an entry with a literal asks for. -/
def Asks (key text : String) : Task → Prop
  | .assign a => a.key = key ∧ a.value = .literal text
  | .malformed k _ => k = key

theorem asks_assignment (key text : String) (phase : Phase)
    (address : Address) :
    Asks key text
      (.assign (ValueEntry.assignment phase ⟨key, address, .literal text⟩)) :=
  And.intro rfl rfl

variable {c c' : Config} {key text : String}

/-- Put in among some entries, a literal is one task more among those of
the plain ones, and none among the templated ones. -/
theorem plainTasks_insert (phase : Phase) (key text : String)
    (address : Address) (before after : List ValueEntry) :
    let more := before ++ ⟨key, address, .literal text⟩ :: after
    let less := before ++ after
    (∃ front task back,
        phaseTasks phase (more.filter (!·.value.isTemplate))
          = front ++ task :: back
        ∧ phaseTasks phase (less.filter (!·.value.isTemplate))
          = front ++ back
        ∧ Asks key text task)
      ∧ more.filter (·.value.isTemplate)
        = less.filter (·.value.isTemplate) := by
  have hplain : (before ++ ⟨key, address, .literal text⟩ :: after).filter
        (!·.value.isTemplate)
      = before.filter (!·.value.isTemplate)
        ++ ⟨key, address, .literal text⟩
          :: after.filter (!·.value.isTemplate) := by
    simp [ValueSpec.isTemplate]
  obtain ⟨front, back, hmore, hless⟩ := phaseTasks_insert phase
    (before.filter (!·.value.isTemplate))
    (after.filter (!·.value.isTemplate)) ⟨key, address, .literal text⟩
  refine ⟨⟨front, _, back, ?_, ?_, asks_assignment key text phase address⟩,
    by simp [ValueSpec.isTemplate]⟩
  · rw [hplain, hmore]
  · rw [List.filter_append, hless]

/-- One entry more is one task more. -/
theorem Adds.plan (h : c.Adds key text c') :
    ∃ front task back, c'.plan = front ++ task :: back
      ∧ c.plan = front ++ back ∧ Asks key text task := by
  cases h with
  | @value address before after hvalues =>
      obtain ⟨⟨front, task, back, hmore, hless, hasks⟩, htemplated⟩ :=
        plainTasks_insert .values key text address before after
      let rest := phaseTasks .patterns
          (c.patterns.filter (!·.value.isTemplate))
        ++ phaseTasks .templates (c.values.filter (·.value.isTemplate)
          ++ c.patterns.filter (·.value.isTemplate))
        ++ c.attributes.map AttributeEntry.task
      refine ⟨front, task, back ++ rest, ?_, ?_, hasks⟩
      · simp only [Config.plan, hmore, htemplated, hvalues, rest,
          List.append_assoc, List.cons_append]
      · simp only [Config.plan, hvalues, hless, rest, List.append_assoc]
  | @pattern address before after hpatterns =>
      obtain ⟨⟨front, task, back, hmore, hless, hasks⟩, htemplated⟩ :=
        plainTasks_insert .patterns key text address before after
      let values :=
        phaseTasks .values (c.values.filter (!·.value.isTemplate))
      let rest := phaseTasks .templates
          (c.values.filter (·.value.isTemplate)
            ++ c.patterns.filter (·.value.isTemplate))
        ++ c.attributes.map AttributeEntry.task
      refine ⟨values ++ front, task, back ++ rest, ?_, ?_, hasks⟩
      · simp only [Config.plan, hmore, htemplated, hpatterns, values, rest,
          List.append_assoc, List.cons_append]
      · simp only [Config.plan, hpatterns, hless, values, rest,
          List.append_assoc]
  | @selector selector before after hattributes =>
      let entries := phaseTasks .values
          (c.values.filter (!·.value.isTemplate))
        ++ phaseTasks .patterns (c.patterns.filter (!·.value.isTemplate))
        ++ phaseTasks .templates (c.values.filter (·.value.isTemplate)
          ++ c.patterns.filter (·.value.isTemplate))
      refine ⟨entries ++ before.map AttributeEntry.task,
        AttributeEntry.task ⟨key, selector, .literal text⟩,
        after.map AttributeEntry.task, ?_, ?_, ?_⟩
      · simp only [Config.plan, List.map_append, List.map_cons, entries,
          List.append_assoc]
      · simp only [Config.plan, hattributes, List.map_append, entries,
          List.append_assoc]
      · simp only [AttributeEntry.task]
        split
        · exact ⟨rfl, rfl⟩
        · exact rfl

/-- Nothing but the entries is another. -/
theorem Adds.namespaces (h : c.Adds key text c') :
    c'.namespaces = c.namespaces := by
  cases h <;> rfl

end Config

-- ============================================================= the pass

namespace Pass

/-- A task that asks for a text that is not valid is turned down. -/
theorem carryOut_declined {key text : String} {task : Task}
    (hasks : Config.Asks key text task)
    (htext : text.toList.all isXmlChar = false) (index : ElementIndex)
    (p : Pass) : Declined key p (p.carryOut index task) := by
  cases task with
  | assign a =>
      obtain ⟨rfl, hvalue⟩ := hasks
      exact assign_declined hvalue htext index p
  | malformed k why =>
      obtain rfl := hasks
      exact (Declined.refl k p).note ⟨rfl, rfl, .inr rfl⟩

variable {key : String} {p q : Pass}

/-- What is left of a pass does not depend on the cache either. -/
theorem Alike.goOn (h : p.Alike q) (index : ElementIndex)
    (tasks : List Task) (rules : NamespaceRules) :
    (p.goOn index tasks rules).Alike (q.goOn index tasks rules) :=
  Alike.applyNamespaces
    (List.foldl_rel h fun task _ _ _ h => h.carryOut index task) index rules

/-- After an entry was turned down the pass goes on as without it; what
the entry was told stays in between. -/
theorem Declined.goOn (h : Declined key p q) (index : ElementIndex)
    (tasks : List Task) (rules : NamespaceRules) :
    ∃ cache new back,
      (p.goOn index tasks rules).events = p.events ++ back
      ∧ q.goOn index tasks rules
        = ({ p.goOn index tasks rules with
              events := p.events ++ new ++ back } : Pass).withCache cache
      ∧ ∀ e ∈ new, e.Declines key := by
  obtain ⟨cache, new, rfl, hnew⟩ := h
  obtain ⟨cache', halike⟩ : (p.fresh.goOn index tasks rules).Alike
      ((p.fresh.withCache cache).goOn index tasks rules) :=
    Alike.goOn ⟨cache, rfl⟩ index tasks rules
  have hplain : p.goOn index tasks rules
      = (p.fresh.goOn index tasks rules).after p.events := by
    rw [← goOn_after, fresh_after]
  have hsplit : (p.withCache cache).noting new
      = (p.fresh.withCache cache).after (p.events ++ new) := by
    simp [noting, after, fresh, withCache]
  refine ⟨cache', new, (p.fresh.goOn index tasks rules).events, ?_, ?_, hnew⟩
  · rw [hplain, events_after]
  · rw [hsplit, goOn_after, halike, hplain]
    rfl

end Pass

-- =========================================================== overrides

namespace Overrides

variable {o : Overrides} {c : Config} {key text : String}

/-- Overrides for one more entry begin in the same state. -/
theorem ofConfig_of_adds {c' : Config} (h : c.Adds key text c')
    (freshSeed : Nat) (today : Calendar.Date) :
    ofConfig c' freshSeed today
      = (ofConfig c freshSeed today).map fun o => { o with config := c' } := by
  have hseed : c'.seed = c.seed := by cases h <;> rfl
  have htemplates : c'.templates = c.templates := by cases h <;> rfl
  have hprefixes : c'.namespaces.prefixes = c.namespaces.prefixes := by
    rw [h.namespaces]
  simp only [ofConfig, hseed, htemplates, hprefixes]
  cases Sources.ofSpecs c.templates (c.seed.getD freshSeed) today <;> rfl

/-- What comes out of a pass when it is through. -/
def handedBack (c : Config) (done : Pass) :
    PassReport × Document × Overrides :=
  let taken := RowSupply.takeIssues done.sources.rows
  (⟨done.events, taken.1⟩, done.doc,
    ⟨c, done.resolver, { done.sources with rows := taken.2 }⟩)

theorem apply_eq_handedBack (o : Overrides) (doc : Document) :
    o.apply doc = handedBack o.config (Pass.run (.ofDocument doc) o.config
      { doc := doc, resolver := o.resolver,
        sources := o.sources.beginPass }) := rfl

/-- Partial failures are tolerated: one more entry whose literal cannot
stand in a document changes neither the document that comes out, nor what
is applied, nor the sources of values. It is told itself that it was
turned down; whatever else is told stays the same, in the same order.
Overrides that are made with the entry are those that are made without it,
but for the configuration: so the two passes begin in the same state. -/
theorem apply_of_adds (hadds : o.config.Adds key text c)
    (htext : text.toList.all isXmlChar = false) (doc : Document) :
    let plain := o.apply doc
    let more := Overrides.apply { o with config := c } doc
    more.2.1 = plain.2.1
      ∧ more.2.2.sources = plain.2.2.sources
      ∧ more.1.applied = plain.1.applied
      ∧ (∃ cache, more.2.2
          = { plain.2.2.withCache cache with config := c })
      ∧ more.1.notes = plain.1.notes
      ∧ (∃ front new back, plain.1.events = front ++ back
        ∧ more.1.events = front ++ new ++ back
        ∧ ∀ e ∈ new, e.Declines key)
      ∧ ∀ freshSeed today, ofConfig c freshSeed today
        = (ofConfig o.config freshSeed today).map
          fun o => { o with config := c } := by
  obtain ⟨front, task, back, hmore, hplain, hasks⟩ := hadds.plan
  let start : Pass :=
    { doc := doc, resolver := o.resolver, sources := o.sources.beginPass }
  let begun := front.foldl (Pass.carryOut (.ofDocument doc)) start
  obtain ⟨cache, new, rest, hevents, hgoOn, hnew⟩ :=
    (Pass.carryOut_declined hasks htext (.ofDocument doc) begun).goOn
      (.ofDocument doc) back o.config.namespaces
  have hrun : start.run (.ofDocument doc) o.config
      = begun.goOn (.ofDocument doc) back o.config.namespaces := by
    rw [Pass.run, hplain, List.foldl_append]
    rfl
  have hrun' : start.run (.ofDocument doc) c
      = ({ start.run (.ofDocument doc) o.config with
        events := begun.events ++ new ++ rest } : Pass).withCache cache := by
    rw [hrun, ← hgoOn, Pass.run, hmore, hadds.namespaces, List.foldl_append]
    rfl
  rw [← hrun] at hevents
  intro plain more
  have hmore : more
      = (⟨begun.events ++ new ++ rest, plain.1.notes⟩, plain.2.1,
        { plain.2.2.withCache cache with config := c }) := by
    have hplain := apply_eq_handedBack o doc
    have hmore := apply_eq_handedBack { o with config := c } doc
    rw [hrun'] at hmore
    simp only [plain, more, hplain, hmore]
    rfl
  have happlied : new.filterMap Event.applied? = [] :=
    List.filterMap_eq_nil_iff.mpr fun e he => (hnew e he).applied
  have hplain : plain.1.events = begun.events ++ rest := hevents
  rw [hmore]
  refine ⟨rfl, rfl, ?_, ⟨cache, rfl⟩, rfl,
    ⟨begun.events, new, rest, hplain, rfl, hnew⟩, ofConfig_of_adds hadds⟩
  simp only [PassReport.applied, hplain, List.filterMap_append, happlied,
    List.append_nil]

/-- A value for an element, and a pattern for it with some text. -/
def valueAndPattern (address : Address) (text : String) : Config :=
  { (default : Config) with
    values := [⟨"b", address, .literal "x"⟩]
    patterns := [⟨"c", address, .literal text⟩] }

/-- A pattern with a control character is turned down, and the value that
comes first stays. -/
theorem apply_of_adds_control_character :
    ∃ doc address, Document.parse "<r><b/></r>" = some doc
      ∧ Address.parse "b" = .ok address
      ∧ (let c := valueAndPattern address "\u0001"
        let o := { (default : Overrides) with
          config := { c with patterns := [] } }
        let plain := o.apply doc
        let more := Overrides.apply { o with config := c } doc
        o.config.Adds "c" "\u0001" c
          ∧ "\u0001".toList.all isXmlChar = false
          ∧ more.2.1 = plain.2.1 ∧ more.2.2.sources = plain.2.2.sources
          ∧ more.1.applied = plain.1.applied
          ∧ (∃ front new back, plain.1.events = front ++ back
            ∧ more.1.events = front ++ new ++ back
            ∧ ∀ e ∈ new, e.Declines "c")
          ∧ more.2.1.text? 1 = some "x"
          ∧ more.1.issues.map (·.subject) = ["c"]) := by
  have hplan : ∀ a t, (valueAndPattern a t).plan
      = [.assign ⟨.values, "b", a, .literal "x", !a.isPattern⟩,
        .assign ⟨.patterns, "c", a, .literal t, !a.isPattern⟩] := by
    intro a t
    have hattributes : (default : Config).attributes = [] := rfl
    simp [valueAndPattern, Config.plan, phaseTasks, bySpecificity,
      ValueEntry.assignment, ValueSpec.isTemplate, hattributes]
  have hdoc : (Document.parse "<r><b/></r>").isSome = true := by
    decide +kernel
  have hread : (Address.parse "b").toOption.isSome = true := by
    decide +kernel
  have hout : (
      let address := (Address.parse "b").toOption.get hread
      let c := valueAndPattern address "\u0001"
      let more := Overrides.apply { (default : Overrides) with config := c }
        ((Document.parse "<r><b/></r>").get hdoc)
      more.2.1.text? 1 = some "x"
        ∧ more.1.issues.map (·.subject) = ["c"]) := by
    simp only [Overrides.apply, Pass.run, hplan]
    clear hplan
    decide +kernel +revert
  have haddress := toOption_eq_some_iff.mp (Option.some_get hread).symm
  let address := (Address.parse "b").toOption.get hread
  refine ⟨_, address, (Option.some_get hdoc).symm, haddress, ?_⟩
  intro c o plain more
  have hadds : o.config.Adds "c" "\u0001" c :=
    @Config.Adds.pattern _ _ _ address [] [] rfl
  have htext : "\u0001".toList.all isXmlChar = false := by decide
  obtain ⟨hsame, hsources, happlied, -, -, hevents, -⟩ :=
    apply_of_adds hadds htext ((Document.parse "<r><b/></r>").get hdoc)
  exact ⟨hadds, htext, hsame, hsources, happlied, hevents, hout⟩

end Overrides

end Overlay
