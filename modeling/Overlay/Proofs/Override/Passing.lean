/-
What a pass over a document asks for, and what is in its slots when all
assignments are through.

# From assignments to writes

Each function of a pass leaves a trace (`Pass.Trace`), and its lemma here
says which writes may be on it. Two things are kept track of:

- Which texts an assignment can reach. `Assignment.FillsFrom` follows a
  row into the elements below the one it is carried out on; elements and
  their names do not change in a pass, so that the way can be followed in
  the document as it was at the beginning.
- What a literal asks for. It does not draw on anything, so the writes of
  its assignment are known in advance (`Assignment.textCalls`).

# The plan as a whole

A plan is a list of tasks, an assignment goes through a list of elements,
and a row is a list of fields. `Trace.foldl` turns traces of the members
into a trace of the list, member by member; it is the only induction over
lists of steps. What then holds of a document follows from the invariant
of `Deciding` (`assigned_last_of_greatest`).
-/
import Overlay.Proofs.Address.Resolving
import Overlay.Proofs.Override.Deciding

namespace Overlay

open Text Xml Wildcard

namespace Pass

variable {doc : Document} {p : Pass} {aliases : Table String}

-- ======================================================= ways of names

/-- Ways of names lead to the same elements as long as their children and
local names stay. -/
theorem descend_congr {doc' : Document}
    (hnames : ∀ i, doc'.localName i = doc.localName i)
    (hchildren : ∀ i, doc'.elementChildren i = doc.elementChildren i)
    (node : Nat) (names : List (List Char)) :
    descend doc' node names = descend doc node names := by
  induction names generalizing node with
  | nil => rfl
  | cons name rest ih =>
      have hlocal : doc'.localName = doc.localName := funext hnames
      rw [descend, descend, hchildren, hlocal]
      cases (doc.elementChildren node).find?
        (doc.localName · == String.ofList name) with
      | none => rfl
      | some child => exact ih child

/-- A way of names ends at an element. -/
theorem isElement_of_descend {node target : Nat}
    {names : List (List Char)} (h : doc.isElement node = true)
    (hd : descend doc node names = some target) :
    doc.isElement target = true := by
  induction names generalizing node with
  | nil =>
      cases hd
      exact h
  | cons name rest ih =>
      rw [descend] at hd
      split at hd
      case h_1 child hchild =>
          have hmem := List.mem_of_find?_eq_some hchild
          exact ih (List.mem_filter.mp hmem).2 hd
      case h_2 => cases hd

-- ====================================================== lists of steps

/-- Traces of the members of a list make a trace of the list. -/
theorem Trace.foldl {σ β : Type} (pass : σ → Pass) (run : σ → β → σ)
    (asked : β → List Write → Prop) {xs : List β}
    (hstep : ∀ s, (pass s).Over doc → (pass s).resolver.aliases = aliases →
      ∀ x ∈ xs, ∃ ws, Trace doc (pass s) ws (pass (run s x)) ∧ asked x ws)
    {s : σ} (hs : (pass s).Over doc)
    (ha : (pass s).resolver.aliases = aliases) :
    ∃ wss, Trace doc (pass s) wss.flatten (pass (xs.foldl run s))
      ∧ List.Forall₂ asked xs wss := by
  induction xs generalizing s with
  | nil => exact ⟨[], .refl _, .nil⟩
  | cons x xs ih =>
      obtain ⟨ws, htrace, hasked⟩ :=
        hstep s hs ha x (List.mem_cons_self ..)
      obtain ⟨wss, htraces, hall⟩ :=
        ih (fun s hs ha y hy => hstep s hs ha y (List.mem_cons_of_mem x hy))
          (htrace.invariant hs) (htrace.aliases.trans ha)
      exact ⟨ws :: wss, htrace.trans htraces, .cons hasked hall⟩

-- ========================================================= one element

/-- Giving a slot its value asks for one write to the slot at most, and
for a literal exactly for that of its text. -/
theorem assignSlot_trace (a : Assignment) (k : Nat) (acc : Pass × Tally)
    {slot : Slot} (hel : doc.isElement slot.node = true) :
    ∃ ws, Trace doc acc.1 ws (assignSlot a k acc slot).1
      ∧ (∀ w ∈ ws, w.slot = slot)
      ∧ ∀ text, a.value = .literal text →
        ws = [⟨a.key, slot, a.address.precedence, text⟩] := by
  obtain ⟨p, tally⟩ := acc
  simp only [assignSlot, found]
  cases htext : Sources.textFor? a.value k p.sources with
  | mk text sources =>
      have hquiet : Trace doc p [] { p with sources := sources } :=
        (Trace.refl p).quiet rfl rfl rfl rfl
      cases text with
      | none =>
          refine ⟨[], hquiet.note rfl, by simp, fun t ht => ?_⟩
          rw [ht] at htext
          cases htext
      | some text =>
          refine ⟨_, hquiet.write
            ⟨a.key, slot, a.address.precedence, text⟩ hel, by simp, ?_⟩
          intro t ht
          rw [ht] at htext
          cases htext
          rfl

/-- Filling one field of a row in. -/
def fillField (a : Assignment) (node : Nat) (acc : Pass × Tally)
    (x : String × String) : Pass × Tally :=
  match fieldElement acc.1.doc node x.1 with
  | some target =>
      writeCounted ⟨a.key, ⟨target, none⟩, a.address.precedence, x.2⟩ acc
  | none => acc

theorem fillRow_eq (a : Assignment) (node : Nat) (row : Row)
    (start : Pass × Tally) :
    fillRow a node row start = row.foldl (fillField a node) start := rfl

/-- Filling a row in asks for writes to texts of elements that its fields
lead to. -/
theorem fillRow_trace (a : Assignment) {node : Nat} (row : Row)
    (start : Pass × Tally) (hs : start.1.Over doc)
    (hel : doc.isElement node = true) :
    ∃ ws, Trace doc start.1 ws (fillRow a node row start).1
      ∧ ∀ w ∈ ws, w.slot.attr = none
        ∧ ∃ field, fieldElement doc node field = some w.slot.node := by
  have hfield : ∀ acc : Pass × Tally, acc.1.Over doc →
      acc.1.resolver.aliases = start.1.resolver.aliases →
      ∀ x ∈ row, ∃ ws, Trace doc acc.1 ws (fillField a node acc x).1
        ∧ ∀ w ∈ ws, w.slot.attr = none
          ∧ ∃ field, fieldElement doc node field = some w.slot.node := by
    rintro acc hacc - ⟨field, value⟩ -
    have hway : fieldElement acc.1.doc node field
        = fieldElement doc node field :=
      descend_congr hacc.shape.localName hacc.shape.elementChildren ..
    rw [fillField, hway]
    cases hf : fieldElement doc node field with
    | none => exact ⟨[], .refl _, by simp⟩
    | some target =>
        refine ⟨_, (Trace.refl _).write
          ⟨a.key, ⟨target, none⟩, a.address.precedence, value⟩
          (isElement_of_descend hel hf), ?_⟩
        intro w hw
        obtain rfl := List.mem_singleton.mp hw
        exact ⟨rfl, field, hf⟩
  obtain ⟨wss, htrace, hall⟩ := Trace.foldl Prod.fst _ _ hfield hs rfl
  rw [fillRow_eq]
  refine ⟨wss.flatten, htrace, fun w hw => ?_⟩
  obtain ⟨ws, hws, hw⟩ := List.mem_flatten.mp hw
  obtain ⟨x, -, hx⟩ := exists_of_mem_forall₂ hall hws
  exact hx w hw

/-- Matching names leaves the aliases alone. -/
theorem matching_aliases (pattern : String) (names : List String)
    (r : PathResolver) :
    ((matching pattern names).run r).2.aliases = r.aliases := by
  induction names generalizing r with
  | nil => rfl
  | cons name rest ih => exact ih _

/-- Choosing attributes is quiet. -/
theorem attributeTargets_trace (doc : Document) (pattern : String)
    (creates : Bool) (node : Nat) (p : Pass) :
    Trace doc p [] (attributeTargets pattern creates node p).2 := by
  rw [attributeTargets]
  split
  · exact (Trace.refl p).quiet rfl rfl rfl (matching_aliases _ _ _)
  · split <;> exact .refl p

end Pass

-- ========================================================= assignments

namespace Assignment

/-- Whether an assignment that is carried out on an element may write the
text of another one: a whole row goes to the elements below, anything else
to the element itself. -/
def FillsFrom (doc : Document) (a : Assignment) (node target : Nat) :
    Prop :=
  match a.value with
  | .templated r =>
    if r.field = none then
      ∃ field, Pass.fieldElement doc node field = some target
    else node = target
  | _ => node = target

/-- What may be asked for on one element: texts that the assignment can
reach from there; for a literal, its text. -/
structure Asks (doc : Document) (a : Assignment) (node : Nat)
    (ws : List Write) : Prop where
  texts : ∀ w ∈ ws, w.slot.attr = none →
    a.address.attr = none ∧ a.FillsFrom doc node w.slot.node
  literal : ∀ text, a.address.attr = none → a.value = .literal text →
    ws = [⟨a.key, ⟨node, none⟩, a.address.precedence, text⟩]

/-- The elements that an assignment is carried out on. -/
def nodes (doc : Document) (aliases : Table String) (a : Assignment) :
    List Nat :=
  (((ElementIndex.ofDocument doc).resolve aliases a.address).run default).1

/-- Whether an assignment may write the text of an element. -/
def Fills (doc : Document) (aliases : Table String) (a : Assignment)
    (target : Nat) : Prop :=
  a.address.attr = none
    ∧ ∃ node ∈ a.nodes doc aliases, a.FillsFrom doc node target

/-- What a literal asks for at the text of an element. -/
def textCalls (doc : Document) (aliases : Table String) (target : Nat)
    (a : Assignment) : List Write :=
  match a.address.attr, a.value with
  | none, .literal text =>
    ((a.nodes doc aliases).filter (· == target)).map fun node =>
      ⟨a.key, ⟨node, none⟩, a.address.precedence, text⟩
  | _, _ => []

end Assignment

namespace Pass

variable {doc : Document} {p : Pass}

/-- Giving attributes their values asks for writes to attributes. -/
theorem assignAttributes_trace (a : Assignment) (acc : Pass × Tally)
    (hacc : acc.1.Over doc) {node : Nat} (k : Nat)
    (hel : doc.isElement node = true) (names : List String) :
    ∃ ws, Trace doc acc.1 ws
        ((names.map fun name => (⟨node, some name⟩ : Slot)).foldl
          (assignSlot a k) acc).1
      ∧ ∀ w ∈ ws, w.slot.attr ≠ none := by
  have hslot : ∀ s : Pass × Tally, s.1.Over doc →
      s.1.resolver.aliases = acc.1.resolver.aliases →
      ∀ slot ∈ names.map fun name => (⟨node, some name⟩ : Slot),
        ∃ ws, Trace doc s.1 ws (assignSlot a k s slot).1
          ∧ ∀ w ∈ ws, w.slot.attr ≠ none := by
    intro s _ _ slot hslot
    obtain ⟨name, -, rfl⟩ := List.mem_map.mp hslot
    have hel' : doc.isElement (⟨node, some name⟩ : Slot).node = true := hel
    obtain ⟨ws, htrace, hslots, -⟩ := assignSlot_trace a k s hel'
    refine ⟨ws, htrace, fun w hw => ?_⟩
    rw [hslots w hw]
    simp
  obtain ⟨wss, htrace, hall⟩ := Trace.foldl Prod.fst _ _ hslot hacc rfl
  refine ⟨wss.flatten, htrace, fun w hw => ?_⟩
  obtain ⟨ws, hws, hw⟩ := List.mem_flatten.mp hw
  obtain ⟨_, -, hx⟩ := exists_of_mem_forall₂ hall hws
  exact hx w hw

/-- Giving a row to the elements below an element. -/
theorem assignRow_trace (a : Assignment) (r : RowRef)
    {acc : Pass × Tally} (hacc : acc.1.Over doc) {node : Nat} (k : Nat)
    (hel : doc.isElement node = true) :
    ∃ ws, Trace doc acc.1 ws (assignRow a r node k acc).1
      ∧ ∀ w ∈ ws, w.slot.attr = none
        ∧ ∃ field, fieldElement doc node field = some w.slot.node := by
  obtain ⟨p, tally⟩ := acc
  simp only [assignRow, found]
  cases hrow : Sources.sharedRow r k p.sources with
  | mk row sources =>
      have hquiet : Trace doc p [] { p with sources := sources } :=
        (Trace.refl p).quiet rfl rfl rfl rfl
      cases row with
      | none => exact ⟨[], hquiet.note rfl, by simp⟩
      | some row =>
          obtain ⟨ws, htrace, hws⟩ := fillRow_trace a row
            ({ p with sources := sources },
              { tally with places := tally.places + 1 })
            (hquiet.invariant hacc) hel
          exact ⟨ws, hquiet.trans htrace, hws⟩

/-- Carrying an assignment out on an element. -/
theorem assignElement_trace (a : Assignment) {acc : Pass × Tally}
    (hacc : acc.1.Over doc) {node : Nat} (k : Nat)
    (hel : doc.isElement node = true) :
    ∃ ws, Trace doc acc.1 ws (assignElement a acc node k).1
      ∧ a.Asks doc node ws := by
  have htext : a.address.attr = none → a.FillsFrom doc node node →
      ∃ ws, Trace doc acc.1 ws (assignSlot a k acc ⟨node, none⟩).1
        ∧ a.Asks doc node ws := by
    intro hattr hfills
    have hel' : doc.isElement (⟨node, none⟩ : Slot).node = true := hel
    obtain ⟨ws, htrace, hslots, hliteral⟩ := assignSlot_trace a k acc hel'
    refine ⟨ws, htrace, fun w hw _ => ⟨hattr, ?_⟩,
      fun text _ => hliteral text⟩
    rw [hslots w hw]
    exact hfills
  rw [assignElement]
  cases hattr : a.address.attr with
  | some pattern =>
      have htargets := attributeTargets_trace doc pattern
        a.creates node acc.1
      obtain ⟨ws, htrace, hws⟩ := assignAttributes_trace a
        (_, acc.2) (htargets.invariant hacc) k hel
        (attributeTargets pattern a.creates node acc.1).1
      refine ⟨ws, htargets.trans htrace, fun w hw hnone => ?_, ?_⟩
      · exact absurd hnone (hws w hw)
      · intro text h
        cases hattr.symm.trans h
  | none =>
      cases hvalue : a.value with
      | literal text =>
          exact htext hattr (by rw [Assignment.FillsFrom, hvalue])
      | generated spec =>
          exact htext hattr (by rw [Assignment.FillsFrom, hvalue])
      | templated r =>
          by_cases hfield : r.field = none
          · simp only [hfield, Option.isNone_none, ↓reduceIte]
            obtain ⟨ws, htrace, hws⟩ := assignRow_trace a r hacc k hel
            refine ⟨ws, htrace, fun w hw _ => ⟨hattr, ?_⟩, ?_⟩
            · rw [Assignment.FillsFrom, hvalue]
              simp only [hfield, ↓reduceIte]
              exact (hws w hw).2
            · intro text _ hl
              cases hvalue.symm.trans hl
          · have hsome : r.field.isNone = false := by
              rw [Bool.eq_false_iff, ne_eq, Option.isNone_iff_eq_none]
              exact hfield
            simp only [hsome, Bool.false_eq_true, ↓reduceIte]
            refine htext hattr ?_
            rw [Assignment.FillsFrom, hvalue]
            simp only [hfield, ↓reduceIte]

/-- The end of an assignment is only noted. -/
theorem concludeAssignment_trace (a : Assignment) {acc : Pass × Tally}
    {ws : List Write} (h : Trace doc p ws acc.1) :
    Trace doc p ws (concludeAssignment a acc) := by
  simp only [concludeAssignment]
  split <;> split
  · exact (h.note rfl).note rfl
  · exact h.note rfl
  · exact h.note rfl
  · exact h

/-- An assignment that finds no element. -/
theorem assign_of_missing {index : ElementIndex} {a : Assignment}
    (h : (p.resolve index a.address).1 = []) :
    p.assign index a
      = (p.resolve index a.address).2.note (.missed a.key .noElement) := by
  rw [assign]
  simp only [h]

/-- An assignment that finds some. -/
theorem assign_of_found {index : ElementIndex} {a : Assignment}
    (h : (p.resolve index a.address).1 ≠ []) :
    p.assign index a
      = concludeAssignment a ((p.resolve index a.address).1.zipIdx.foldl
          (fun acc x => assignElement a acc x.1 x.2)
          ((p.resolve index a.address).2, {})) := by
  cases hfound : p.resolve index a.address with
  | mk nodes q =>
      rw [hfound] at h
      simp only [assign, hfound]

/-- A literal asks for its text on each element, and for nothing else. -/
theorem flatten_of_literal {a : Assignment} {text : String}
    (hattr : a.address.attr = none) (hvalue : a.value = .literal text)
    {xs : List (Nat × Nat)} {wss : List (List Write)}
    (h : List.Forall₂ (fun x ws => a.Asks doc x.1 ws) xs wss) :
    wss.flatten = (xs.map Prod.fst).map fun node =>
      ⟨a.key, ⟨node, none⟩, a.address.precedence, text⟩ := by
  induction h with
  | nil => rfl
  | cons hx _ ih =>
      rw [List.flatten_cons, List.map_cons, List.map_cons, ih,
        hx.literal text hattr hvalue]
      rfl

/-- Carrying an assignment out on all its elements. Texts that it asks
for are texts that it fills; what a literal asks for is known. -/
theorem assign_trace (a : Assignment) (hp : p.Over doc)
    (hroot : doc.isElement doc.root = true) :
    ∃ ws, Trace doc p ws (p.assign (.ofDocument doc) a)
      ∧ (∀ w ∈ ws, w.slot.attr = none →
        a.Fills doc p.resolver.aliases w.slot.node)
      ∧ ∀ text, a.address.attr = none → a.value = .literal text →
        ws = (a.nodes doc p.resolver.aliases).map fun node =>
          ⟨a.key, ⟨node, none⟩, a.address.precedence, text⟩ := by
  have hnodes : (p.resolve (.ofDocument doc) a.address).1
      = a.nodes doc p.resolver.aliases :=
    resolve_answers_default _ _ _ p.resolver.cache
  have hquiet : Trace doc p [] (p.resolve (.ofDocument doc) a.address).2 :=
    (Trace.refl p).quiet rfl rfl rfl rfl
  have hstep : ∀ acc : Pass × Tally, acc.1.Over doc →
      acc.1.resolver.aliases = p.resolver.aliases →
      ∀ x ∈ (a.nodes doc p.resolver.aliases).zipIdx,
        ∃ ws, Trace doc acc.1 ws (assignElement a acc x.1 x.2).1
          ∧ (x.1 ∈ a.nodes doc p.resolver.aliases ∧ a.Asks doc x.1 ws) := by
    intro acc hacc _ x hx
    have hmem := List.fst_mem_of_mem_zipIdx hx
    obtain ⟨ws, htrace, hasks⟩ := assignElement_trace a hacc x.2
      (ElementIndex.isElement_of_mem_resolve hroot hmem)
    exact ⟨ws, htrace, hmem, hasks⟩
  obtain ⟨wss, htrace, hall⟩ := Trace.foldl Prod.fst _ _ hstep
    (s := ((p.resolve (.ofDocument doc) a.address).2, {}))
    (hquiet.invariant hp) rfl
  refine ⟨wss.flatten, ?_, fun w hw hattr => ?_, fun text hattr hvalue => ?_⟩
  · by_cases hnil : a.nodes doc p.resolver.aliases = []
    · rw [assign_of_missing (hnodes.trans hnil)]
      rw [hnil] at hall
      cases hall
      exact hquiet.note rfl
    · rw [assign_of_found fun h => hnil (hnodes.symm.trans h), hnodes]
      exact concludeAssignment_trace a (hquiet.trans htrace)
  · obtain ⟨ws, hws, hw⟩ := List.mem_flatten.mp hw
    obtain ⟨x, -, hmem, hasks⟩ := exists_of_mem_forall₂ hall hws
    obtain ⟨hnone, hfills⟩ := hasks.texts w hw hattr
    exact ⟨hnone, x.1, hmem, hfills⟩
  · rw [flatten_of_literal hattr hvalue (hall.imp fun _ _ h => h.2),
      List.zipIdx_map_fst]

/-- What an assignment asks for at the text of an element, if only
literals can write it. -/
theorem assign_textCalls (a : Assignment) (hp : p.Over doc)
    (hroot : doc.isElement doc.root = true) {target : Nat}
    (h : a.Fills doc p.resolver.aliases target →
      ∃ text, a.value = .literal text) :
    ∃ ws, Trace doc p ws (p.assign (.ofDocument doc) a)
      ∧ ws.filter (·.slot == ⟨target, none⟩)
        = a.textCalls doc p.resolver.aliases target := by
  obtain ⟨ws, htrace, htexts, hliteral⟩ := assign_trace a hp hroot
  refine ⟨ws, htrace, ?_⟩
  have hnothing : ¬ a.Fills doc p.resolver.aliases target →
      ws.filter (·.slot == ⟨target, none⟩) = [] := by
    intro hnot
    rw [List.filter_eq_nil_iff]
    intro w hw hslot
    rw [beq_iff_eq] at hslot
    have hfills := htexts w hw (by rw [hslot])
    rw [hslot] at hfills
    exact hnot hfills
  cases hattr : a.address.attr with
  | some pattern =>
      rw [hnothing fun hf => by (cases hattr.symm.trans hf.1),
        Assignment.textCalls, hattr]
  | none =>
      cases hvalue : a.value with
      | literal text =>
          rw [hliteral text hattr hvalue, Assignment.textCalls]
          simp only [hattr, hvalue, List.filter_map]
          refine congrArg (List.map _) (List.filter_congr fun n _ => ?_)
          rw [Bool.eq_iff_iff]
          simp
      | generated spec =>
          rw [hnothing fun hf => by
            obtain ⟨text, ht⟩ := h hf
            cases hvalue.symm.trans ht]
          simp only [Assignment.textCalls, hattr, hvalue]
      | templated r =>
          rw [hnothing fun hf => by
            obtain ⟨text, ht⟩ := h hf
            cases hvalue.symm.trans ht]
          simp only [Assignment.textCalls, hattr, hvalue]

/-- Carrying tasks out leaves a trace. -/
theorem tasks_trace (hp : p.Over doc) (hroot : doc.isElement doc.root = true)
    (tasks : List Task) :
    ∃ ws, Trace doc p ws (tasks.foldl (carryOut (.ofDocument doc)) p) := by
  have hstep : ∀ q : Pass, q.Over doc →
      q.resolver.aliases = p.resolver.aliases → ∀ task ∈ tasks,
      ∃ ws, Trace doc q ws (q.carryOut (.ofDocument doc) task) ∧ True := by
    intro q hq _ task _
    cases task with
    | assign a =>
        obtain ⟨ws, htrace, -⟩ := assign_trace a hq hroot
        exact ⟨ws, htrace, trivial⟩
    | malformed key why => exact ⟨[], (Trace.refl q).note rfl, trivial⟩
  obtain ⟨wss, htrace, -⟩ := Trace.foldl id _ _ hstep hp rfl
  exact ⟨wss.flatten, htrace⟩

/-- What namespaces do: they set attributes and rename elements, get to
know patterns, and note events that are about no write. -/
theorem applyNamespaces_induct {P : Pass → Prop}
    (hnote : ∀ p e, e.write? = none → P p → P (p.note e))
    (hset : ∀ p id name value doc, p.doc.setAttribute id name value = .ok doc →
      P p → P { p with doc := doc })
    (hrename : ∀ p id name doc, p.doc.rename id name = .ok doc →
      P p → P { p with doc := doc })
    (hresolver : ∀ p r, r.aliases = p.resolver.aliases →
      P p → P { p with resolver := r })
    (index : ElementIndex) {p : Pass} (rules : NamespaceRules) (hp : P p) :
    P (p.applyNamespaces index rules) := by
  have hdeclare : ∀ (p : Pass) (name : QName) (uri : String),
      P p → P (p.declare name uri) := by
    intro p name uri hp
    rw [declare]
    split
    case h_1 doc hdoc => exact hnote _ _ rfl (hset p _ _ _ doc hdoc hp)
    case h_2 => exact hnote _ _ rfl hp
  have hrenaming : ∀ (rule : PrefixRule) (nodes : List Nat)
      (acc : Pass × Nat), P acc.1 → P (nodes.foldl (addPrefix rule) acc).1 := by
    intro rule nodes acc hacc
    refine List.foldlRecOn nodes (addPrefix rule)
      (motive := fun acc => P acc.1) hacc fun acc hacc node _ => ?_
    rw [addPrefix]
    split
    case h_1 doc hdoc => exact hrename acc.1 _ _ doc hdoc hacc
    case h_2 => exact hnote _ _ rfl hacc
  have happly : ∀ (p : Pass) (rule : PrefixRule),
      P p → P (applyPrefix index p rule) := by
    intro p rule hp
    have hresolve : P (p.resolve index rule.address).2 :=
      hresolver p _ rfl hp
    simp only [applyPrefix]
    split
    · exact hnote _ _ rfl hresolve
    · split
      · exact hnote _ _ rfl (hrenaming _ _ _ hresolve)
      · exact hrenaming _ _ _ hresolve
  rw [applyNamespaces]
  refine List.foldlRecOn _ _ (List.foldlRecOn _ _ ?_ ?_)
    fun p hp rule _ => happly p rule hp
  · cases rules.defaultUri with
    | none => exact hp
    | some uri => exact hdeclare _ _ _ hp
  · exact fun p hp entry _ => hdeclare p _ _ hp

/-- A view that sees none of this stays. -/
theorem applyNamespaces_keeps {α : Type} (view : Pass → α)
    (hnote : ∀ p e, e.write? = none → view (p.note e) = view p)
    (hdoc : ∀ p doc, view { p with doc := doc } = view p)
    (hresolver : ∀ p r, view { p with resolver := r } = view p)
    (index : ElementIndex) (p : Pass) (rules : NamespaceRules) :
    view (p.applyNamespaces index rules) = view p :=
  applyNamespaces_induct (P := fun q => view q = view p)
    (fun q e he hq => (hnote q e he).trans hq)
    (fun q _ _ _ doc _ hq => (hdoc q doc).trans hq)
    (fun q _ _ doc _ hq => (hdoc q doc).trans hq)
    (fun q r _ hq => (hresolver q r).trans hq) index rules rfl

/-- Namespaces ask for no write. -/
theorem calls_applyNamespaces (index : ElementIndex) (p : Pass)
    (rules : NamespaceRules) :
    (p.applyNamespaces index rules).calls = p.calls :=
  applyNamespaces_keeps calls
    (fun p e he => by simp [calls, note, he])
    (fun _ _ => rfl) (fun _ _ => rfl) index p rules

end Pass

-- ======================================================== a whole plan

/-- The assignment of a task, if it is one. -/
def Task.assignment? : Task → Option Assignment
  | .assign a => some a
  | .malformed _ _ => none

namespace Overrides

variable {doc : Document}

/-- The pass over a document when all assignments are through and the
namespaces are still to come. -/
def assigned (o : Overrides) (doc : Document) : Pass :=
  o.config.plan.foldl (Pass.carryOut (.ofDocument doc))
    { doc := doc, resolver := o.resolver, sources := o.sources.beginPass }

/-- The assignments of a configuration, in the order in which they are
carried out. -/
def assignments (o : Overrides) : List Assignment :=
  o.config.plan.filterMap Task.assignment?

/-- Namespaces come after all writes: the pass as a whole asks for nothing
else, and goes on with the document that the assignments have left. -/
theorem apply_after_assigned (o : Overrides) (doc : Document) :
    (o.apply doc).1.events.filterMap Event.write? = (o.assigned doc).calls
      ∧ (o.apply doc).2.1 = ((o.assigned doc).applyNamespaces
          (.ofDocument doc) o.config.namespaces).doc :=
  ⟨Pass.calls_applyNamespaces _ _ _, rfl⟩

/-- All assignments leave a trace. -/
theorem assigned_trace (o : Overrides) (hdoc : doc.Sound) :
    ∃ ws, Pass.Trace doc
      { doc := doc, resolver := o.resolver, sources := o.sources.beginPass }
      ws (o.assigned doc) :=
  Pass.tasks_trace (Pass.over_start hdoc o.resolver o.sources.beginPass)
    hdoc.root o.config.plan

/-- The aliases of namespaces stay. -/
theorem apply_aliases (o : Overrides) (hdoc : doc.Sound) :
    (o.apply doc).2.2.resolver.aliases = o.resolver.aliases := by
  obtain ⟨ws, htrace⟩ := o.assigned_trace hdoc
  exact Pass.applyNamespaces_induct
    (P := fun p => p.resolver.aliases = o.resolver.aliases)
    (fun _ _ _ hp => hp) (fun _ _ _ _ _ _ hp => hp)
    (fun _ _ _ _ _ hp => hp) (fun _ _ hr hp => hr.trans hp) _ _
    htrace.aliases

theorem assigned_over (o : Overrides) (hdoc : doc.Sound) :
    (o.assigned doc).Over doc := by
  obtain ⟨ws, htrace⟩ := o.assigned_trace hdoc
  exact htrace.invariant
    (Pass.over_start hdoc o.resolver o.sources.beginPass)

/-- The writes to a text that only literals can reach are those of the
literals, in the order of the plan. -/
theorem assigned_textCalls (o : Overrides) (hdoc : doc.Sound)
    {target : Nat}
    (h : ∀ a ∈ o.assignments, a.Fills doc o.resolver.aliases target →
      ∃ text, a.value = .literal text) :
    (o.assigned doc).calls.filter (·.slot == ⟨target, none⟩)
      = o.assignments.flatMap
        (Assignment.textCalls doc o.resolver.aliases target) := by
  have hstep : ∀ p : Pass, p.Over doc →
      p.resolver.aliases = o.resolver.aliases → ∀ task ∈ o.config.plan,
      ∃ ws, Pass.Trace doc p ws (p.carryOut (.ofDocument doc) task)
        ∧ ws.filter (·.slot == ⟨target, none⟩)
          = task.assignment?.toList.flatMap
            (Assignment.textCalls doc o.resolver.aliases target) := by
    intro p hp haliases task htask
    cases task with
    | assign a =>
        have ha : a ∈ o.assignments :=
          List.mem_filterMap.mpr ⟨.assign a, htask, rfl⟩
        obtain ⟨ws, htrace, hws⟩ := Pass.assign_textCalls a hp hdoc.root
          (fun hf => h a ha (haliases ▸ hf))
        refine ⟨ws, htrace, ?_⟩
        rw [hws, haliases]
        simp [Task.assignment?]
    | malformed key why =>
        exact ⟨[], (Pass.Trace.refl p).note rfl, rfl⟩
  have hstart := Pass.over_start hdoc o.resolver o.sources.beginPass
  obtain ⟨wss, htrace, hall⟩ := Pass.Trace.foldl id _ _ hstep hstart rfl
  have hcalls : (o.assigned doc).calls = wss.flatten := htrace.calls
  have hflat : ∀ (tasks : List Task) (vss : List (List Write)),
      List.Forall₂ (fun task ws => ws.filter (·.slot == ⟨target, none⟩)
        = task.assignment?.toList.flatMap
          (Assignment.textCalls doc o.resolver.aliases target)) tasks vss →
      vss.flatten.filter (·.slot == ⟨target, none⟩)
        = (tasks.filterMap Task.assignment?).flatMap
          (Assignment.textCalls doc o.resolver.aliases target) := by
    intro tasks vss hall
    induction hall with
    | nil => rfl
    | @cons task ws tasks vss hws _ ih =>
        rw [List.flatten_cons, List.filter_append, ih, hws,
          List.filterMap_cons]
        cases task.assignment? <;> simp
  rw [hcalls, hflat _ _ hall, assignments]

end Overrides

-- ============================================================ literals

/-- The write that a literal assignment has for the text of an element
that it matches. -/
def Assignment.literalFor (doc : Document) (aliases : Table String)
    (target : Nat) (a : Assignment) : Option Write :=
  match a.address.attr, a.value with
  | none, .literal text =>
    if target ∈ a.nodes doc aliases then
      some ⟨a.key, ⟨target, none⟩, a.address.precedence, text⟩
    else none
  | _, _ => none

/-- A literal asks for one and the same write, once or more often. -/
theorem textCalls_eq_replicate (doc : Document) (aliases : Table String)
    (target : Nat) (a : Assignment) :
    (a.literalFor doc aliases target = none
        ∧ a.textCalls doc aliases target = [])
      ∨ ∃ w k, a.literalFor doc aliases target = some w
        ∧ a.textCalls doc aliases target = List.replicate (k + 1) w := by
  rw [Assignment.literalFor, Assignment.textCalls]
  split
  case h_2 => exact .inl ⟨rfl, rfl⟩
  case h_1 text _ _ =>
      have hfilter : (a.nodes doc aliases).filter (· == target)
          = List.replicate ((a.nodes doc aliases).count target) target := by
        rw [List.filter_beq]
      by_cases hmem : target ∈ a.nodes doc aliases
      · obtain ⟨k, hk⟩ := Nat.exists_eq_succ_of_ne_zero
          (List.count_pos_iff.mpr hmem).ne'
        refine .inr ⟨_, k, if_pos hmem, ?_⟩
        rw [hfilter, hk, List.map_replicate]
      · refine .inl ⟨if_neg hmem, ?_⟩
        rw [hfilter, List.count_eq_zero_of_not_mem hmem]
        rfl

/-- Repeating the members of a list keeps its order. -/
theorem exists_split_flatMap {α : Type} {f : α → Option Write}
    {g : α → List Write}
    (hfg : ∀ a, (f a = none ∧ g a = [])
      ∨ ∃ w k, f a = some w ∧ g a = List.replicate (k + 1) w)
    {as : List α} {before after : List Write} {w : Write}
    (h : as.filterMap f = before ++ w :: after) :
    ∃ front back, as.flatMap g = front ++ w :: back
      ∧ (∀ v ∈ front, v ∈ before ∨ v = w) ∧ ∀ v ∈ back, v ∈ after := by
  have hmem : ∀ as : List α, ∀ v ∈ as.flatMap g, v ∈ as.filterMap f := by
    intro as v hv
    obtain ⟨a, ha, hv⟩ := List.mem_flatMap.mp hv
    rcases hfg a with ⟨-, hg⟩ | ⟨u, k, hf, hg⟩
    · rw [hg] at hv
      cases hv
    · rw [hg] at hv
      obtain rfl := List.eq_of_mem_replicate hv
      exact List.mem_filterMap.mpr ⟨a, ha, hf⟩
  obtain ⟨xs, ys, rfl, hxs, hys⟩ := List.filterMap_eq_append_iff.mp h
  obtain ⟨zs, a, ws, rfl, hzs, ha, hws⟩ := List.filterMap_eq_cons_iff.mp hys
  rcases hfg a with ⟨hf, -⟩ | ⟨u, k, hf, hg⟩
  · rw [ha] at hf
    cases hf
  rw [ha] at hf
  cases hf
  have hnone : zs.flatMap g = [] := by
    rw [List.flatMap_eq_nil_iff]
    intro z hz
    rcases hfg z with ⟨-, hg⟩ | ⟨u, k, hf, -⟩
    · exact hg
    · rw [hzs z hz] at hf
      cases hf
  refine ⟨xs.flatMap g ++ List.replicate k w, ws.flatMap g, ?_,
    fun v hv => ?_, fun v hv => hws ▸ hmem ws v hv⟩
  · rw [List.flatMap_append, List.flatMap_append, List.flatMap_cons, hnone,
      hg, List.replicate_succ']
    simp
  · rcases List.mem_append.mp hv with hv | hv
    · exact .inl (hxs ▸ hmem xs v hv)
    · exact .inr (List.eq_of_mem_replicate hv)

namespace Overrides

/-- The writes that literals have for the text of an element, in the order
in which they are carried out; those whose text may not stand in a
document are left out. -/
def literalsFor (o : Overrides) (doc : Document) (target : Nat) :
    List Write :=
  (o.assignments.filterMap
    (Assignment.literalFor doc o.resolver.aliases target)).filter (·.isValid)

/-- When all assignments of a configuration are through, a slot that valid
writes were asked for holds the value of the last one among those of the
greatest precedence. The text of an element that only literals can reach
is that of the matching literal of the greatest precedence, in whichever
phase it stands; of several ones, that of the last one. -/
theorem assigned_last_of_greatest {s : String} {doc : Document}
    (hdoc : Document.parse s = some doc) (o : Overrides) :
    let p := o.assigned doc
    ((o.apply doc).1.events.filterMap Event.write? = p.calls
        ∧ (o.apply doc).2.1
          = (p.applyNamespaces (.ofDocument doc) o.config.namespaces).doc)
      ∧ (∀ slot, p.callsOn slot ≠ [] → ∃ before w after,
          p.callsOn slot = before ++ w :: after
            ∧ (∀ v ∈ before, v.precedence ≤ w.precedence)
            ∧ (∀ v ∈ after, v.precedence < w.precedence)
            ∧ slot.read p.doc = w.held)
      ∧ ∀ target, o.literalsFor doc target ≠ [] →
          (∀ a ∈ o.assignments, a.Fills doc o.resolver.aliases target →
            ∃ text, a.value = .literal text) →
          ∃ before w after,
            o.literalsFor doc target = before ++ w :: after
              ∧ (∀ v ∈ before, v.precedence ≤ w.precedence)
              ∧ (∀ v ∈ after, v.precedence < w.precedence)
              ∧ p.doc.text? target = w.held := by
  intro p
  have hsound := Document.sound_of_parse hdoc
  have hover := assigned_over o hsound
  refine ⟨apply_after_assigned o doc, fun slot hne => ?_,
    fun target hne hliteral => ?_⟩
  · obtain ⟨before, w, after, hsplit, hbefore, hafter⟩ :=
      exists_split_of_ne_nil hne
    refine ⟨before, w, after, hsplit, hbefore, hafter, ?_⟩
    refine hover.holds slot w ?_
    rw [hsplit]
    exact decisive_append hbefore hafter
  · obtain ⟨before, w, after, hsplit, hbefore, hafter⟩ :=
      exists_split_of_ne_nil hne
    refine ⟨before, w, after, hsplit, hbefore, hafter, ?_⟩
    -- the writes on record are those of the literals, some repeated
    have hcalls : p.callsOn ⟨target, none⟩ = o.assignments.flatMap
        fun a => (a.textCalls doc o.resolver.aliases target).filter
          (·.isValid) := by
      rw [← List.filter_flatMap, ← assigned_textCalls o hsound hliteral,
        List.filter_filter, Pass.callsOn]
      exact List.filter_congr fun v _ => Bool.and_comm ..
    have hfg : ∀ a : Assignment,
        ((a.literalFor doc o.resolver.aliases target).filter (·.isValid)
            = none
          ∧ (a.textCalls doc o.resolver.aliases target).filter (·.isValid)
            = [])
        ∨ ∃ v k, (a.literalFor doc o.resolver.aliases target).filter
            (·.isValid) = some v
          ∧ (a.textCalls doc o.resolver.aliases target).filter (·.isValid)
            = List.replicate (k + 1) v := by
      intro a
      rcases textCalls_eq_replicate doc o.resolver.aliases target a with
        ⟨hf, hg⟩ | ⟨v, k, hf, hg⟩
      · exact .inl ⟨by rw [hf]; rfl, by rw [hg]; rfl⟩
      · rw [hf, hg]
        cases hv : v.isValid with
        | true => exact .inr ⟨v, k, by simp [hv], by simp [hv]⟩
        | false => exact .inl ⟨by simp [hv], by simp [hv]⟩
    rw [literalsFor, List.filter_filterMap] at hsplit
    obtain ⟨front, back, hflat, hfront, hback⟩ :=
      exists_split_flatMap hfg hsplit
    refine hover.holds ⟨target, none⟩ w ?_
    rw [hcalls, hflat]
    refine decisive_append (fun v hv => ?_) fun v hv => hafter v (hback v hv)
    rcases hfront v hv with hv | rfl
    · exact hbefore v hv
    · exact UInt32.le_refl _

/-- A value for `/r/b` and, carried out later, a less specific one for
`b*`. -/
def twoLiterals (specific general : Address) : Overrides :=
  { (default : Overrides) with
    config := { (default : Config) with
      values := [⟨"/r/b", specific, .literal "x"⟩]
      patterns := [⟨"b*", general, .literal "y"⟩] } }

/-- The more specific of two literals stays although the other one comes
later. -/
theorem assigned_last_of_greatest_two_literals :
    ∃ doc specific general, Document.parse "<r><b/></r>" = some doc
      ∧ Address.parse "/r/b" = .ok specific
      ∧ Address.parse "b*" = .ok general
      ∧ (let o := twoLiterals specific general
        let p := o.assigned doc
        p.callsOn ⟨1, none⟩ ≠ [] ∧ o.literalsFor doc 1 ≠ []
          ∧ (∀ a ∈ o.assignments, a.Fills doc o.resolver.aliases 1 →
              ∃ text, a.value = .literal text)
          ∧ (∃ before w after, p.callsOn ⟨1, none⟩ = before ++ w :: after
              ∧ (∀ v ∈ before, v.precedence ≤ w.precedence)
              ∧ (∀ v ∈ after, v.precedence < w.precedence)
              ∧ (⟨1, none⟩ : Slot).read p.doc = w.held)
          ∧ (∃ before w after, o.literalsFor doc 1 = before ++ w :: after
              ∧ (∀ v ∈ before, v.precedence ≤ w.precedence)
              ∧ (∀ v ∈ after, v.precedence < w.precedence)
              ∧ p.doc.text? 1 = w.held)
          ∧ p.doc.text? 1 = some "x") := by
  have hplan : ∀ a b, (twoLiterals a b).config.plan
      = [.assign ⟨.values, "/r/b", a, .literal "x", !a.isPattern⟩,
        .assign ⟨.patterns, "b*", b, .literal "y", !b.isPattern⟩] := by
    intro a b
    simp [twoLiterals, Config.plan, phaseTasks, bySpecificity,
      ValueEntry.assignment, ValueSpec.isTemplate]
    rfl
  have hdoc : (Document.parse "<r><b/></r>").isSome = true := by
    decide +kernel +revert
  have ha : (Address.parse "/r/b").toOption.isSome = true := by
    decide +kernel +revert
  have hb : (Address.parse "b*").toOption.isSome = true := by
    decide +kernel +revert
  have hread : ∀ {text : String} {a : Address},
      (Address.parse text).toOption = some a → Address.parse text = .ok a := by
    intro text a h
    cases hp : Address.parse text <;> simp_all [Except.toOption]
  refine ⟨_, _, _, (Option.some_get hdoc).symm,
    hread (Option.some_get ha).symm, hread (Option.some_get hb).symm, ?_⟩
  intro o p
  have hcalls : p.callsOn ⟨1, none⟩ ≠ [] := by
    simp only [p, o, assigned, hplan]
    decide +kernel +revert
  have hliterals : o.literalsFor ((Document.parse "<r><b/></r>").get hdoc) 1
      ≠ [] := by
    simp only [o, literalsFor, assignments, hplan]
    decide +kernel +revert
  have htext : p.doc.text? 1 = some "x" := by
    simp only [p, o, assigned, hplan]
    decide +kernel +revert
  have hvalues : ∀ a ∈ o.assignments, ∃ text, a.value = .literal text := by
    simp [o, assignments, hplan, Task.assignment?]
  obtain ⟨-, hslots, htexts⟩ :=
    assigned_last_of_greatest (Option.some_get hdoc).symm o
  exact ⟨hcalls, hliterals, fun a ha _ => hvalues a ha, hslots _ hcalls,
    htexts 1 hliterals fun a ha _ => hvalues a ha, htext⟩

end Overrides

end Overlay
