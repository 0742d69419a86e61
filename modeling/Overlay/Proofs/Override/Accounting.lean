/-
Which entries a pass tells of.

# What counts as told

An event that is about an entry names its key (`Event.subject?`). A write
is not told when it is carried out, but its assignment is, as soon as it
is through. `Pass.Told` says that one of the two holds: an event about the
key is there, or the tally has a write that will be told.

Each step of an assignment is followed through this one notion. Whatever
is written, shadowed, refused or missed makes it hold (`told_writeCounted`,
`told_assignSlot`).

# What is lost

A whole row is written to the elements below the one that it is for, each
field to its own. A field that leads nowhere is left out, and nothing is
noted then. So an assignment whose rows have no field that leads anywhere
finds its elements, writes nothing and tells nothing (`Assignment.Lost`).
It is the only way for an entry to be lost: `apply_accounts` has the
condition in both directions, task by task.
-/
import Overlay.Config.File
import Overlay.Proofs.Override.Appending
import Overlay.Proofs.Override.Sharing

namespace Overlay

open Text Xml

-- ====================================================== what can be lost

/-- The rows for some elements with their numbers. -/
def Sources.rowsFor (r : RowRef) :
    List (Nat × Nat) → Sources → List (Nat × Option Row)
  | [], _ => []
  | (node, k) :: rest, s =>
    let (row, s) := sharedRow r k s
    (node, row) :: rowsFor r rest s

theorem Sources.rowsFor_cons (r : RowRef) (x : Nat × Nat)
    (xs : List (Nat × Nat)) (s : Sources) :
    s.rowsFor r (x :: xs)
      = (x.1, (sharedRow r x.2 s).1) :: (sharedRow r x.2 s).2.rowsFor r xs :=
  rfl

/-- Whether a row is there for an element, but no field of it leads to an
element below. -/
def LeadsNowhere (doc : Document) (x : Nat × Option Row) : Prop :=
  ∃ row, x.2 = some row
    ∧ ∀ entry ∈ row, Pass.fieldElement doc x.1 entry.1 = none

/-- Whether an assignment finds elements and says nothing of them: it has
whole rows for them, and none of these leads anywhere. -/
def Assignment.Lost (doc : Document) (aliases : Table String)
    (s : Sources) (a : Assignment) : Prop :=
  a.address.attr = none
    ∧ ∃ r, a.value = .templated r ∧ r.field = none
      ∧ a.nodes doc aliases ≠ []
      ∧ ∀ x ∈ s.rowsFor r (a.nodes doc aliases).zipIdx, LeadsNowhere doc x

/-- A whole row is lost if it has elements and leads nowhere from any. -/
theorem Assignment.lost_iff {doc : Document} {aliases : Table String}
    {s : Sources} {a : Assignment} {r : RowRef}
    (hattr : a.address.attr = none) (hvalue : a.value = .templated r)
    (hfield : r.field = none) (hnodes : a.nodes doc aliases ≠ []) :
    a.Lost doc aliases s
      ↔ ∀ x ∈ s.rowsFor r (a.nodes doc aliases).zipIdx,
        LeadsNowhere doc x := by
  refine ⟨?_, fun hall => ⟨hattr, r, hvalue, hfield, hnodes, hall⟩⟩
  rintro ⟨-, r', hvalue', -, -, hall⟩
  cases hvalue.symm.trans hvalue'
  exact hall

/-- A write to a slot changes neither the elements nor their names. -/
theorem Slot.sameShape_put {doc doc' : Document} {slot : Slot}
    {value : String} (h : slot.put doc value = .ok doc') :
    doc.SameShape doc' := by
  rw [put] at h
  split at h
  case h_1 name hname =>
      obtain ⟨-, -, e, he, rfl⟩ := Document.setAttribute_eq_ok_iff.mp h
      exact Document.sameShape_putElement he rfl
  case h_2 =>
      obtain ⟨-, hel, rfl⟩ := Document.setText_eq_ok_iff.mp h
      exact Document.sameShape_retext (Document.lt_of_isElement hel) value

namespace Task

/-- The key of the entry that a task comes from. -/
def key : Task → String
  | .assign a => a.key
  | .malformed key _ => key

/-- Whether nothing is said of a task. -/
def Lost (doc : Document) (aliases : Table String) (s : Sources) :
    Task → Prop
  | .assign a => a.Lost doc aliases s
  | .malformed _ _ => False

end Task

namespace Pass

/-- Whether an event of a pass is about the entry with a key. -/
def Mentions (p : Pass) (key : String) : Prop :=
  ∃ e ∈ p.events, e.subject? = some key

/-- Whether something is told of an entry, now or when its assignment is
through. -/
def Told (key : String) (acc : Pass × Tally) : Prop :=
  acc.1.Mentions key ∨ 0 < acc.2.written

variable {doc : Document} {p : Pass} {acc : Pass × Tally} {key : String}

theorem mentions_note (p : Pass) (e : Event) (key : String) :
    (p.note e).Mentions key ↔ p.Mentions key ∨ e.subject? = some key := by
  simp [Mentions, note, or_and_right, exists_or]

theorem mentions_after (log : List Event) (p : Pass) (key : String) :
    (p.after log).Mentions key
      ↔ (∃ e ∈ log, e.subject? = some key) ∨ p.Mentions key := by
  simp [Mentions, or_and_right, exists_or]

theorem not_mentions_fresh (p : Pass) (key : String) :
    ¬ p.fresh.Mentions key := by
  rintro ⟨e, he, -⟩
  cases he

-- ============================================================== writes

/-- What is written, shadowed or refused is told. -/
theorem told_writeCounted (w : Write) (acc : Pass × Tally) :
    Told w.key (writeCounted w acc) := by
  rcases write_outcome w acc.1 with ⟨e, he, hwrite⟩ | ⟨doc, -, hwrite⟩
  · refine .inl ?_
    simp only [writeCounted, hwrite]
    exact (mentions_note ..).mpr (.inr he.subject)
  · refine .inr ?_
    simp only [writeCounted, hwrite, ↓reduceIte]
    exact Nat.succ_pos _

/-- Whether a step has kept the elements of a document, and how many
places were found. -/
structure Keeps (acc acc' : Pass × Tally) : Prop where
  shape : acc.1.doc.SameShape acc'.1.doc
  places : acc'.2.places = acc.2.places

theorem keeps_writeCounted (w : Write) (acc : Pass × Tally) :
    Keeps acc (writeCounted w acc) := by
  rcases write_outcome w acc.1 with ⟨e, -, hwrite⟩ | ⟨doc, hput, hwrite⟩
  · simp only [writeCounted, hwrite]
    exact ⟨.refl _, rfl⟩
  · simp only [writeCounted, hwrite]
    exact ⟨Slot.sameShape_put hput, rfl⟩

-- ========================================================= whole rows

variable {a : Assignment}

theorem keeps_fillField (a : Assignment) (node : Nat) (acc : Pass × Tally)
    (x : String × String) : Keeps acc (fillField a node acc x) := by
  rw [fillField]
  split
  · exact keeps_writeCounted _ acc
  · exact ⟨.refl _, rfl⟩

theorem keeps_fillRow (a : Assignment) (node : Nat) (row : Row)
    (acc : Pass × Tally) : Keeps acc (fillRow a node row acc) := by
  rw [fillRow_eq]
  induction row generalizing acc with
  | nil => exact ⟨.refl _, rfl⟩
  | cons x row ih =>
      have hx := keeps_fillField a node acc x
      have hrow := ih (fillField a node acc x)
      exact ⟨hx.shape.trans hrow.shape, hrow.places.trans hx.places⟩

/-- Filling a row in tells something exactly if some field leads
somewhere. -/
theorem told_fillRow (a : Assignment) (acc : Pass × Tally)
    (h : doc.SameShape acc.1.doc) (node : Nat) (row : Row) :
    Told a.key (fillRow a node row acc)
      ↔ Told a.key acc
        ∨ ∃ entry ∈ row, fieldElement doc node entry.1 ≠ none := by
  rw [fillRow_eq]
  induction row generalizing acc with
  | nil => simp
  | cons x row ih =>
      have hway : fieldElement acc.1.doc node x.1
          = fieldElement doc node x.1 :=
        descend_congr h.localName h.elementChildren ..
      have hfield : Told a.key (fillField a node acc x)
          ↔ Told a.key acc ∨ fieldElement doc node x.1 ≠ none := by
        rw [fillField, hway]
        cases fieldElement doc node x.1 with
        | none => simp
        | some target =>
            simpa using told_writeCounted
              ⟨a.key, ⟨target, none⟩, a.address.precedence, x.2⟩ acc
      rw [List.foldl_cons, ih _ (h.trans (keeps_fillField a node acc x).shape),
        hfield, or_assoc]
      simp only [List.exists_mem_cons_iff]

/-- A whole row is told of unless it leads nowhere. -/
theorem told_assignRow (a : Assignment) (acc : Pass × Tally)
    (h : doc.SameShape acc.1.doc) (r : RowRef) (node k : Nat) :
    Told a.key (assignRow a r node k acc)
      ↔ Told a.key acc
        ∨ ¬ LeadsNowhere doc
          (node, (Sources.sharedRow r k acc.1.sources).1) := by
  simp only [assignRow, found]
  rcases Sources.sharedRow r k acc.1.sources with ⟨_ | row, sources⟩
  · have hnot : ¬ LeadsNowhere doc (node, none) := by
      rintro ⟨row, hrow, -⟩
      cases hrow
    simp only [hnot, not_false_eq_true, or_true, iff_true]
    exact .inl ((mentions_note ..).mpr (.inr rfl))
  · have hfill := told_fillRow a ({ acc.1 with sources := sources },
      { acc.2 with places := acc.2.places + 1 }) h node row
    refine hfill.trans (or_congr Iff.rfl ?_)
    simp [LeadsNowhere]

/-- It counts its element, too. -/
theorem assignRow_counts (a : Assignment) (r : RowRef) (node k : Nat)
    (acc : Pass × Tally) :
    acc.1.doc.SameShape (assignRow a r node k acc).1.doc
      ∧ (assignRow a r node k acc).2.places = acc.2.places + 1 := by
  simp only [assignRow, found]
  rcases Sources.sharedRow r k acc.1.sources with ⟨_ | row, sources⟩
  · exact ⟨.refl _, rfl⟩
  · obtain ⟨hshape, hplaces⟩ := keeps_fillRow a node row
      ({ acc.1 with sources := sources },
        { acc.2 with places := acc.2.places + 1 })
    exact ⟨hshape, hplaces⟩

/-- Whole rows are told of unless all of them lead nowhere. -/
theorem told_assignRows (a : Assignment) (acc : Pass × Tally)
    (h : doc.SameShape acc.1.doc) (r : RowRef) (xs : List (Nat × Nat)) :
    let acc' := xs.foldl (fun acc x => assignRow a r x.1 x.2 acc) acc
    (Told a.key acc' ↔ Told a.key acc
        ∨ ∃ x ∈ acc.1.sources.rowsFor r xs, ¬ LeadsNowhere doc x)
      ∧ acc'.2.places = acc.2.places + xs.length := by
  induction xs generalizing acc with
  | nil => simp [Sources.rowsFor]
  | cons x xs ih =>
      obtain ⟨hshape, hplaces⟩ := assignRow_counts a r x.1 x.2 acc
      obtain ⟨htold, hall⟩ := ih _ (h.trans hshape)
      refine ⟨?_, ?_⟩
      · rw [List.foldl_cons, htold, told_assignRow a acc h,
          assignRow_sources, or_assoc, Sources.rowsFor_cons]
        simp only [List.exists_mem_cons_iff]
      · rw [List.foldl_cons, hall, hplaces, List.length_cons]
        omega

-- ====================================================== all other values

/-- Giving a slot its value is told. -/
theorem told_assignSlot (a : Assignment) (k : Nat) (acc : Pass × Tally)
    (slot : Slot) : Told a.key (assignSlot a k acc slot) := by
  simp only [assignSlot, found]
  rcases Sources.textFor? a.value k acc.1.sources with ⟨_ | text, sources⟩
  · exact .inl ((mentions_note ..).mpr (.inr rfl))
  · exact told_writeCounted ⟨a.key, slot, a.address.precedence, text⟩ _

/-- Giving slots their values is told, unless there are none. -/
theorem told_assignSlots (a : Assignment) (k : Nat) (acc : Pass × Tally)
    {slots : List Slot} (h : slots ≠ []) :
    Told a.key (slots.foldl (assignSlot a k) acc) := by
  obtain rfl | ⟨slots, slot, rfl⟩ := List.eq_nil_or_concat slots
  · exact absurd rfl h
  · rw [List.concat_eq_append, List.foldl_append]
    exact told_assignSlot a k _ slot

/-- Choosing attributes notes nothing. -/
theorem attributeTargets_events (pattern : String) (creates : Bool)
    (node : Nat) (p : Pass) :
    (attributeTargets pattern creates node p).2.events = p.events := by
  rw [attributeTargets]
  split
  · rfl
  · split <;> rfl

/-- What is not a whole row is told of as long as it finds a place. -/
theorem told_assignElement
    (hrow : ∀ r, a.value = .templated r → r.field = none →
      a.address.attr ≠ none)
    (h : Told a.key acc ∨ acc.2.places = 0) (node k : Nat) :
    Told a.key (assignElement a acc node k)
      ∨ (assignElement a acc node k).2.places = 0 := by
  unfold assignElement
  cases hattr : a.address.attr with
  | some pattern =>
      dsimp only
      by_cases hnil : (attributeTargets pattern a.creates node acc.1).1 = []
      · rw [hnil]
        simpa only [Told, Mentions, List.map_nil, List.foldl_nil,
          attributeTargets_events] using h
      · exact .inl (told_assignSlots a k _ (by simpa using hnil))
  | none =>
      dsimp only
      split
      case h_1 r hvalue =>
          have hfield : r.field.isNone = false := by
            by_contra hnone
            exact hrow r hvalue (by simpa using hnone) hattr
          rw [hfield]
          exact .inl (told_assignSlot a k acc _)
      case h_2 => exact .inl (told_assignSlot a k acc _)

/-- The same of several elements. -/
theorem told_assignElements
    (hrow : ∀ r, a.value = .templated r → r.field = none →
      a.address.attr ≠ none)
    (xs : List (Nat × Nat)) (acc : Pass × Tally)
    (h : Told a.key acc ∨ acc.2.places = 0) :
    let acc' := xs.foldl (fun acc x => assignElement a acc x.1 x.2) acc
    Told a.key acc' ∨ acc'.2.places = 0 := by
  induction xs generalizing acc with
  | nil => exact h
  | cons x xs ih => exact ih _ (told_assignElement hrow h x.1 x.2)

/-- At the end of an assignment it is told what it has written, or that it
has found no place. -/
theorem mentions_conclude (a : Assignment) (acc : Pass × Tally) :
    (concludeAssignment a acc).Mentions a.key
      ↔ Told a.key acc ∨ acc.2.places = 0 := by
  have hplaces : (if acc.2.places == 0
        then acc.1.note (.missed a.key .noAttribute) else acc.1).Mentions a.key
      ↔ acc.1.Mentions a.key ∨ acc.2.places = 0 := by
    split <;> simp_all [mentions_note, Event.subject?]
  simp only [concludeAssignment]
  split
  case isTrue hwritten =>
      simp [mentions_note, Event.subject?, Told, hwritten]
  case isFalse hwritten =>
      rw [hplaces, Told]
      tauto

-- ========================================================== assignments

/-- Something is told of an assignment unless it is lost. -/
theorem mentions_assign (h : doc.SameShape p.doc)
    (hnone : ¬ p.Mentions a.key) :
    (p.assign (.ofDocument doc) a).Mentions a.key
      ↔ ¬ a.Lost doc p.resolver.aliases p.sources := by
  have hnodes : (p.resolve (.ofDocument doc) a.address).1
      = a.nodes doc p.resolver.aliases :=
    resolve_answers_default _ _ _ p.resolver.cache
  by_cases hnil : a.nodes doc p.resolver.aliases = []
  · rw [assign_of_missing (hnodes.trans hnil), mentions_note]
    refine iff_of_true (.inr rfl) ?_
    rintro ⟨-, r, -, -, hne, -⟩
    exact hne hnil
  rw [assign_of_found fun h => hnil (hnodes.symm.trans h), hnodes,
    mentions_conclude]
  have hstart : ¬ Told a.key
      ((p.resolve (.ofDocument doc) a.address).2, {}) := by
    rintro (hm | hw)
    · exact hnone hm
    · exact absurd hw (Nat.lt_irrefl 0)
  by_cases hrow : a.address.attr = none
      ∧ ∃ r, a.value = .templated r ∧ r.field = none
  · obtain ⟨hattr, r, hvalue, hfield⟩ := hrow
    have helement : (fun acc (x : Nat × Nat) => assignElement a acc x.1 x.2)
        = fun acc x => assignRow a r x.1 x.2 acc := by
      funext acc x
      simp [assignElement, hattr, hvalue, hfield]
    obtain ⟨htold, hplaces⟩ := told_assignRows a
      ((p.resolve (.ofDocument doc) a.address).2, {}) h r
      (a.nodes doc p.resolver.aliases).zipIdx
    have hpos : 0 < (a.nodes doc p.resolver.aliases).length :=
      List.length_pos_iff.mpr hnil
    rw [helement, htold, hplaces, List.length_zipIdx]
    have hsome : ¬ 0 + (a.nodes doc p.resolver.aliases).length = 0 := by
      omega
    simp only [hstart, hsome, false_or, or_false,
      Assignment.lost_iff hattr hvalue hfield hnil, not_forall, exists_prop]
    rfl
  · have hplaced := told_assignElements
      (fun r hvalue hfield hattr => hrow ⟨hattr, r, hvalue, hfield⟩)
      (a.nodes doc p.resolver.aliases).zipIdx
      ((p.resolve (.ofDocument doc) a.address).2, {}) (.inr rfl)
    refine iff_of_true hplaced ?_
    rintro ⟨hattr, r, hvalue, hfield, -⟩
    exact hrow ⟨hattr, r, hvalue, hfield⟩

/-- Something is told of a task unless it is lost. -/
theorem mentions_carryOut {task : Task} (h : doc.SameShape p.doc)
    (hnone : ¬ p.Mentions task.key) :
    (p.carryOut (.ofDocument doc) task).Mentions task.key
      ↔ ¬ task.Lost doc p.resolver.aliases p.sources := by
  cases task with
  | assign a => exact mentions_assign h hnone
  | malformed k why =>
      exact iff_of_true ((mentions_note ..).mpr (.inr rfl)) (fun h => h)

-- ========================================================== namespaces

/-- An element that gets a prefix is told of, now or at the end. -/
theorem told_addPrefix (rule : PrefixRule) (acc : Pass × Nat) (node : Nat) :
    (addPrefix rule acc node).1.Mentions rule.key
      ∨ 0 < (addPrefix rule acc node).2 := by
  simp only [addPrefix]
  split
  · exact .inr (Nat.succ_pos _)
  · exact .inl ((mentions_note ..).mpr (.inr rfl))

/-- A rule for prefixes is always told of. -/
theorem mentions_applyPrefix (index : ElementIndex) (p : Pass)
    (rule : PrefixRule) : (p.applyPrefix index rule).Mentions rule.key := by
  simp only [applyPrefix]
  split
  case h_1 => exact (mentions_note ..).mpr (.inr rfl)
  case h_2 hfound =>
      obtain hnil | ⟨nodes, node, hnodes⟩ :=
        List.eq_nil_or_concat (p.resolve index rule.address).1
      · exact absurd hnil hfound
      · rw [List.concat_eq_append] at hnodes
        rw [hnodes, List.foldl_append, List.foldl_cons, List.foldl_nil]
        rcases told_addPrefix rule (nodes.foldl (addPrefix rule)
          ((p.resolve index rule.address).2, 0)) node with hm | hpos
        · split
          · exact (mentions_note ..).mpr (.inr rfl)
          · exact hm
        · rw [if_pos hpos]
          exact (mentions_note ..).mpr (.inr rfl)

/-- All rules for prefixes are told of. -/
theorem mentions_applyNamespaces {rules : NamespaceRules}
    {rule : PrefixRule} (h : rule ∈ rules.elements) (index : ElementIndex)
    (p : Pass) : (p.applyNamespaces index rules).Mentions rule.key := by
  have hkeep : ∀ (elements : List PrefixRule) (q : Pass),
      q.Mentions rule.key →
      (elements.foldl (applyPrefix index) q).Mentions rule.key := by
    intro elements q hq
    rw [← q.fresh_after, List.foldl_hom (after q.events) fun p rule =>
      applyPrefix_after q.events p index rule]
    exact (mentions_after ..).mpr (.inl hq)
  obtain ⟨front, back, hsplit⟩ := List.append_of_mem h
  rw [applyNamespaces, hsplit, List.foldl_append]
  exact hkeep back _ (mentions_applyPrefix index _ rule)

end Pass

-- ============================================================= the plan

/-- The keys of the entries that are written to elements: values, patterns
and attributes. -/
def Config.entryKeys (c : Config) : List String :=
  c.values.map (·.key) ++ c.patterns.map (·.key) ++ c.attributes.map (·.key)

theorem phaseTasks_keys (phase : Phase) (entries : List ValueEntry) :
    ((phaseTasks phase entries).map Task.key).Perm (entries.map (·.key)) := by
  have hkeys : (phaseTasks phase entries).map Task.key
      = (bySpecificity entries).map (·.key) := by
    rw [phaseTasks, List.map_map]
    rfl
  rw [hkeys]
  exact (List.mergeSort_perm ..).map _

/-- The key of a task is that of its entry. -/
theorem AttributeEntry.key_task (e : AttributeEntry) : e.task.key = e.key := by
  rw [task]
  split <;> rfl

/-- Each entry has one task in the plan. -/
theorem Config.plan_keys (c : Config) :
    (c.plan.map Task.key).Perm c.entryKeys := by
  have hsplit : ∀ entries : List ValueEntry,
      ((entries.filter (!·.value.isTemplate)).map (·.key)
          ++ (entries.filter (·.value.isTemplate)).map (·.key)).Perm
        (entries.map (·.key)) := by
    intro entries
    rw [← List.map_append]
    exact ((List.perm_append_comm).trans
      (List.filter_append_perm _ entries)).map _
  have hattributes : (c.attributes.map AttributeEntry.task).map Task.key
      = c.attributes.map (·.key) := by
    rw [List.map_map]
    exact List.map_congr_left fun e _ => e.key_task
  refine List.perm_iff_count.mpr fun key => ?_
  have hvalues := (hsplit c.values).count_eq key
  have hpatterns := (hsplit c.patterns).count_eq key
  simp only [List.count_append] at hvalues hpatterns
  simp only [plan, entryKeys, List.map_append, hattributes, List.count_append,
    (phaseTasks_keys _ _).count_eq key]
  omega

-- ======================================================= the whole pass

namespace PassReport

/-- The lines of a report. -/
def lines (r : PassReport) : List String :=
  r.applied ++ r.skipped ++ r.issues.map Issue.render

/-- Whether a line of a report is about the entry with a key. -/
def Mentions (r : PassReport) (key : String) : Prop :=
  ∃ e ∈ r.events, e.subject? = some key ∧ ∃ line ∈ e.texts, line ∈ r.lines

/-- What events say is in the report. -/
theorem mentions_of_mem {r : PassReport} {e : Event} {key : String}
    (he : e ∈ r.events) (h : e.subject? = some key) : r.Mentions key := by
  obtain ⟨line, hline⟩ :=
    List.exists_mem_of_ne_nil _ (Event.texts_ne_nil h)
  refine ⟨e, he, h, line, hline, ?_⟩
  simp only [Event.texts, List.mem_append, Option.mem_toList] at hline
  simp only [lines, applied, skipped, issues, List.map_append,
    List.map_filterMap, List.mem_append, List.mem_filterMap]
  rcases hline with (ha | hs) | hi
  · exact .inl (.inl ⟨e, he, ha⟩)
  · exact .inl (.inr ⟨e, he, hs⟩)
  · exact .inr (.inl ⟨e, he, hi⟩)

end PassReport

namespace Overrides

variable {doc : Document}

/-- A pass over a document when some tasks are through. -/
def carriedOut (o : Overrides) (doc : Document) (tasks : List Task) : Pass :=
  tasks.foldl (Pass.carryOut (.ofDocument doc))
    { doc := doc, resolver := o.resolver, sources := o.sources.beginPass }

/-- Whether a task of a plan is lost when its turn comes. -/
def Loses (o : Overrides) (doc : Document) (before : List Task)
    (task : Task) : Prop :=
  task.Lost doc o.resolver.aliases (o.carriedOut doc before).sources

/-- The events of a pass are those before a task, those of the task, and
those behind it. The task is told of among its own events unless it is
lost. -/
theorem events_of_split (o : Overrides) (hdoc : doc.Sound)
    {before after : List Task} {task : Task}
    (hplan : o.config.plan = before ++ task :: after) :
    ∃ own rest,
      (o.carriedOut doc (before ++ [task])).events
          = (o.carriedOut doc before).events ++ own
        ∧ (o.apply doc).1.events
          = (o.carriedOut doc before).events ++ own ++ rest
        ∧ ((∃ e ∈ own, e.subject? = some task.key)
          ↔ ¬ o.Loses doc before task) := by
  let index : ElementIndex := .ofDocument doc
  let p := o.carriedOut doc before
  obtain ⟨ws, htrace⟩ := Pass.tasks_trace
    (Pass.over_start hdoc o.resolver o.sources.beginPass) hdoc.root before
  have hshape : doc.SameShape p.doc :=
    (htrace.invariant (Pass.over_start hdoc ..)).shape
  have haliases : p.resolver.aliases = o.resolver.aliases := htrace.aliases
  let q := p.fresh.carryOut index task
  have hq : p.carryOut index task = q.after p.events :=
    p.carryOut_fresh index task
  have hrun : (o.apply doc).1.events
      = ((q.after p.events).goOn index after o.config.namespaces).events := by
    show (Pass.run index o.config _).events = _
    rw [Pass.run, hplan, List.foldl_append, List.foldl_cons, ← hq]
    rfl
  refine ⟨q.events, (q.fresh.goOn index after o.config.namespaces).events,
    ?_, ?_, ?_⟩
  · rw [carriedOut, List.foldl_append]
    exact congrArg Pass.events hq
  · rw [hrun, ← q.fresh_after]
    simp only [Pass.goOn_after, Pass.events_after, List.append_assoc]
    rfl
  · rw [Loses, ← haliases]
    exact Pass.mentions_carryOut hshape (p.not_mentions_fresh task.key)

/-- Every entry is accounted for unless it is lost. Each entry has one
task in the plan, and the events of that task, which are all in the
report, are about the key of the entry if and only if the task is not
lost. Rules for prefixes are never lost. -/
theorem apply_accounts {s : String} (hdoc : Document.parse s = some doc)
    (o : Overrides) :
    (∀ key ∈ o.config.entryKeys, (o.apply doc).1.Mentions key
        ∨ ∃ before task after, o.config.plan = before ++ task :: after
          ∧ task.key = key ∧ o.Loses doc before task)
      ∧ (∀ rule ∈ o.config.namespaces.elements,
        (o.apply doc).1.Mentions rule.key)
      ∧ (o.config.plan.map Task.key).Perm o.config.entryKeys
      ∧ ∀ before task after, o.config.plan = before ++ task :: after →
        ∃ own rest,
          (o.carriedOut doc (before ++ [task])).events
              = (o.carriedOut doc before).events ++ own
            ∧ (o.apply doc).1.events
              = (o.carriedOut doc before).events ++ own ++ rest
            ∧ ((∃ e ∈ own, e.subject? = some task.key)
              ↔ ¬ o.Loses doc before task) := by
  have hsound := Document.sound_of_parse hdoc
  refine ⟨fun key hkey => ?_, fun rule hrule => ?_, o.config.plan_keys,
    fun before task after hplan => o.events_of_split hsound hplan⟩
  · obtain ⟨task, htask, rfl⟩ :=
      List.mem_map.mp (o.config.plan_keys.mem_iff.mpr hkey)
    obtain ⟨before, after, hplan⟩ := List.append_of_mem htask
    obtain ⟨own, rest, -, hevents, htold⟩ := o.events_of_split hsound hplan
    by_cases hlost : o.Loses doc before task
    · exact .inr ⟨before, task, after, hplan, rfl, hlost⟩
    · obtain ⟨e, he, hsubject⟩ := htold.mpr hlost
      refine .inl (PassReport.mentions_of_mem ?_ hsubject)
      rw [hevents]
      simp [he]
  · obtain ⟨e, he, hsubject⟩ :=
      Pass.mentions_applyNamespaces hrule (.ofDocument doc) (o.assigned doc)
    exact PassReport.mentions_of_mem he hsubject

/-- The overrides of a configuration in JSON. -/
def configuredBy (config : String) : Option Overrides :=
  (Config.ofText .json config).toOption.bind fun c =>
    (ofConfig c 0 default).toOption

/-- A configuration with a value for an element that is not there. -/
def missingElement : String :=
  "\x7b\"schema\": \"s\", \"mode\": \"complete\","
    ++ " \"values\": \x7b\"x\": \"1\"\x7d\x7d"

/-- A value for an element that is not there is accounted for. -/
theorem apply_accounts_missing_element :
    ∃ doc o, Document.parse "<r/>" = some doc
      ∧ configuredBy missingElement = some o
      ∧ o.config.entryKeys = ["x"]
      ∧ (o.apply doc).1.lines = ["[resolution-miss] x: matched no element"]
      ∧ ((o.apply doc).1.Mentions "x"
        ∨ ∃ before task after, o.config.plan = before ++ task :: after
          ∧ task.key = "x" ∧ o.Loses doc before task) := by
  have hview : ((configuredBy missingElement).bind fun o =>
      (Document.parse "<r/>").map fun doc =>
        (o.config.entryKeys, (o.apply doc).1.lines))
      = some (["x"], ["[resolution-miss] x: matched no element"]) := by
    decide +kernel
  obtain ⟨o, ho, hview⟩ := Option.bind_eq_some_iff.mp hview
  obtain ⟨doc, hdoc, hview⟩ := Option.map_eq_some_iff.mp hview
  obtain ⟨hkeys, hlines⟩ := Prod.mk.inj hview
  exact ⟨doc, o, hdoc, ho, hkeys, hlines,
    (apply_accounts hdoc o).1 "x" (by simp [hkeys])⟩

/-- A configuration that writes the rows of a template below an element. -/
def wholeRow : String :=
  "\x7b\"schema\": \"s\", \"mode\": \"complete\","
    ++ " \"templates\": \x7b\"t\": [\x7b\"x\": \"1\"\x7d]\x7d,"
    ++ " \"values\": \x7b\"r\": \"@t\"\x7d\x7d"

/-- A whole row for an element without children is lost: no line of the
report is about it. -/
theorem whole_row_is_lost :
    ∃ doc o, Document.parse "<r/>" = some doc
      ∧ configuredBy wholeRow = some o ∧ "r" ∈ o.config.entryKeys
      ∧ ¬ (o.apply doc).1.Mentions "r" ∧ (o.apply doc).1.lines = [] := by
  have hview : ((configuredBy wholeRow).bind fun o =>
      (Document.parse "<r/>").map fun doc =>
        (o.config.entryKeys, (o.apply doc).1.events.isEmpty,
          (o.apply doc).1.lines)) = some (["r"], true, []) := by
    decide +kernel
  obtain ⟨o, ho, hview⟩ := Option.bind_eq_some_iff.mp hview
  obtain ⟨doc, hdoc, hview⟩ := Option.map_eq_some_iff.mp hview
  simp only [Prod.mk.injEq, List.isEmpty_iff] at hview
  obtain ⟨hkeys, hevents, hlines⟩ := hview
  refine ⟨doc, o, hdoc, ho, by simp [hkeys], ?_, hlines⟩
  rintro ⟨e, he, -⟩
  rw [hevents] at he
  cases he

end Overrides

end Overlay
