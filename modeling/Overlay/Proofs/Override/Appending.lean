/-
What has been noted in a pass is never read again.

# Events in front

`Pass.after` puts events in front of those of a pass. Every function of a
pass commutes with it: a pass reads its document, its claims, its sources
and its resolver, and adds to the end of its events. A list of steps
commutes if its steps do (`List.foldl_hom`).

A pass is thus the same pass begun with no events, behind the events it
had (`carryOut_fresh`), and what one task tells of does not depend on what
others have told before.

# Whom an event is about

`Event.subject?` is the key of the entry that an event tells of. Each text
that is told of the event contains it (`Event.names_subject`). A write is
either carried out or turned down by an event about its key
(`write_outcome`).
-/
import Overlay.Override

namespace Overlay

open Text Xml

-- ============================================================ subjects

namespace Event

/-- The key of the entry that an event tells of. A write on its own is not
told, and a declaration of a namespace has no entry of its own. -/
def subject? : Event → Option String
  | .shadowed w _ _ => some w.key
  | .refused w _ _ => some w.key
  | .missed key _ => some key
  | .malformed key _ => some key
  | .assigned a _ => some a.key
  | .notRenamed key _ _ => some key
  | .prefixed rule _ => some rule.key
  | .written _ => none
  | .declared _ _ => none
  | .undeclared _ _ => none

/-- The texts that are told of an event. -/
def texts (e : Event) : List String :=
  e.applied?.toList ++ e.skipped?.toList
    ++ (e.issue?.map Issue.render).toList

variable {e : Event} {key : String}

/-- What is told of an entry names its key. -/
theorem names_subject (h : e.subject? = some key) {text : String}
    (ht : text ∈ e.texts) : key.toList <:+: text.toList := by
  have hinfix : ∀ front back : String,
      key.toList <:+: (front ++ key ++ back).toList := by
    intro front back
    rw [String.toList_append, String.toList_append]
    exact ⟨front.toList, back.toList, rfl⟩
  have hrender : ∀ i : Issue, i.subject = key →
      key.toList <:+: i.render.toList := by
    rintro i rfl
    simpa only [Issue.render, String.append_assoc]
      using hinfix ("[" ++ i.kind.name ++ "] ") (": " ++ i.message)
  cases e with
  | written w => cases h
  | declared name uri => cases h
  | undeclared name why => cases h
  | shadowed w path holder =>
      cases h
      obtain rfl := List.mem_singleton.mp ht
      simpa only [String.append_assoc, String.empty_append] using hinfix "" _
  | refused w path why =>
      cases h
      obtain rfl := List.mem_singleton.mp ht
      exact hrender _ rfl
  | missed k miss =>
      cases h
      obtain rfl := List.mem_singleton.mp ht
      exact hrender _ rfl
  | malformed k why =>
      cases h
      obtain rfl := List.mem_singleton.mp ht
      exact hrender _ rfl
  | assigned a count =>
      cases h
      obtain rfl := List.mem_singleton.mp ht
      simpa only [String.append_assoc]
        using hinfix (a.phase.name ++ ": ") _
  | notRenamed k path why =>
      cases h
      obtain rfl := List.mem_singleton.mp ht
      exact hrender _ rfl
  | prefixed rule count =>
      cases h
      obtain rfl := List.mem_singleton.mp ht
      simpa only [String.append_assoc] using hinfix "namespaces: " _

/-- An event that tells of an entry is told. -/
theorem texts_ne_nil (h : e.subject? = some key) : e.texts ≠ [] := by
  cases e with
  | written w => cases h
  | declared name uri => cases h
  | undeclared name why => cases h
  | _ => simp [texts, applied?, skipped?, issue?]

/-- Whether an event turns down the entry with a key: it tells of it that
something was skipped or went wrong. -/
structure Declines (key : String) (e : Event) : Prop where
  subject : e.subject? = some key
  applied : e.applied? = none
  told : e.skipped?.isSome ∨ e.issue?.isSome

end Event

/-- What can become of a write: it is turned down and not counted, or
carried out and counted. -/
theorem Pass.write_outcome (w : Write) (p : Pass) :
    (∃ e, e.Declines w.key ∧ p.write w = (p.note e, false))
      ∨ ∃ doc, w.slot.put p.doc w.value = .ok doc
        ∧ p.write w = ({ p with
            doc := doc
            claims := (w.slot, ⟨w.key, w.precedence⟩) :: p.claims
            events := p.events ++ [.written w] }, true) := by
  have hput : (∃ e, e.Declines w.key ∧ p.put w = (p.note e, false))
      ∨ ∃ doc, w.slot.put p.doc w.value = .ok doc
        ∧ p.put w = ({ p with
            doc := doc
            claims := (w.slot, ⟨w.key, w.precedence⟩) :: p.claims
            events := p.events ++ [.written w] }, true) := by
    rw [put]
    cases hw : w.slot.put p.doc w.value with
    | error why => exact .inl ⟨_, ⟨rfl, rfl, .inr rfl⟩, rfl⟩
    | ok doc => exact .inr ⟨doc, rfl, rfl⟩
  rw [write]
  split
  · split
    · exact .inl ⟨_, ⟨rfl, rfl, .inl rfl⟩, rfl⟩
    · exact hput
  · exact hput

-- ===================================================== events in front

namespace Pass

/-- A pass behind some events. -/
def after (log : List Event) (p : Pass) : Pass :=
  { p with events := log ++ p.events }

/-- A pass that has noted nothing. -/
def fresh (p : Pass) : Pass := { p with events := [] }

variable (log : List Event) (p : Pass)

@[simp] theorem doc_after : (p.after log).doc = p.doc := rfl

@[simp] theorem resolver_after : (p.after log).resolver = p.resolver := rfl

@[simp] theorem sources_after : (p.after log).sources = p.sources := rfl

@[simp] theorem events_after : (p.after log).events = log ++ p.events := rfl

/-- A pass is a fresh one behind its events. -/
theorem fresh_after : p.fresh.after p.events = p := by
  simp [fresh, after]

/-- What is noted comes on top of what was noted before. -/
theorem note_after (e : Event) :
    (p.after log).note e = (p.note e).after log := by
  simp [note, after]

-- ============================================================== writes

/-- Nothing of what was noted is looked at to put a text in its place. -/
theorem put_after (w : Write) :
    (p.after log).put w = ((p.put w).1.after log, (p.put w).2) := by
  simp only [put, doc_after]
  cases w.slot.put p.doc w.value with
  | ok doc => simp [after]
  | error why => simp [note_after]

/-- Whether a text may go to its place depends on the claims, and on nothing
that was noted. -/
theorem write_after (w : Write) :
    (p.after log).write w = ((p.write w).1.after log, (p.write w).2) := by
  have hclaim : (p.after log).claim? w.slot = p.claim? w.slot := rfl
  simp only [write, hclaim]
  split
  · split
    · simp [note_after]
    · exact put_after log p w
  · exact put_after log p w

variable {α : Type} (x : Pass × α) (acc : Pass × Tally)

/-- A pass behind some events, and what is kept beside it. -/
def behind (log : List Event) (x : Pass × α) : Pass × α :=
  (x.1.after log, x.2)

@[simp] theorem fst_behind : (behind log x).1 = x.1.after log := rfl

@[simp] theorem snd_behind : (behind log x).2 = x.2 := rfl

/-- So a write is the same behind any events, and is tallied the same. -/
theorem writeCounted_behind (w : Write) :
    writeCounted w (behind log acc) = behind log (writeCounted w acc) := by
  simp [writeCounted, behind, write_after]

/-- The fields of a row are written behind any events as without them. -/
theorem fillRow_behind (a : Assignment) (node : Nat) (row : Row) :
    fillRow a node row (behind log acc)
      = behind log (fillRow a node row acc) := by
  refine List.foldl_hom (behind log) fun acc entry => ?_
  simp only [behind, doc_after]
  split
  · exact writeCounted_behind log acc _
  · rfl

/-- The row that a reference draws is assigned behind any events as without
them. -/
theorem assignRow_behind (a : Assignment) (r : RowRef) (node k : Nat) :
    assignRow a r node k (behind log acc)
      = behind log (assignRow a r node k acc) := by
  simp only [assignRow, found, behind, sources_after]
  rcases Sources.sharedRow r k acc.1.sources with ⟨_ | row, sources⟩
  · simp [note, after]
  · exact fillRow_behind log ({ acc.1 with sources := sources }, _) a node row

/-- A value is assigned to a slot behind any events as without them. -/
theorem assignSlot_behind (a : Assignment) (k : Nat) (slot : Slot) :
    assignSlot a k (behind log acc) slot
      = behind log (assignSlot a k acc slot) := by
  simp only [assignSlot, found, behind, sources_after]
  rcases Sources.textFor? a.value k acc.1.sources with ⟨_ | text, sources⟩
  · simp [note, after]
  · exact writeCounted_behind log ({ acc.1 with sources := sources }, _) _

-- ========================================================= assignments

/-- Which attributes are meant at an element depends on the document and the
resolver. -/
theorem attributeTargets_after (pattern : String) (creates : Bool)
    (node : Nat) :
    attributeTargets pattern creates node (p.after log)
      = ((attributeTargets pattern creates node p).1,
        (attributeTargets pattern creates node p).2.after log) := by
  simp only [attributeTargets, doc_after, resolver_after]
  split
  · rfl
  · split <;> simp only [*] <;> rfl

/-- Which elements an address stands for depends on the index and the
resolver. -/
theorem resolve_after (index : ElementIndex) (a : Address) :
    (p.after log).resolve index a
      = ((p.resolve index a).1, (p.resolve index a).2.after log) := rfl

/-- What is assigned at an element does not depend on what was noted before. -/
theorem assignElement_behind (a : Assignment) (node k : Nat) :
    assignElement a (behind log acc) node k
      = behind log (assignElement a acc node k) := by
  unfold assignElement
  cases a.address.attr with
  | some pattern =>
      simp only [fst_behind, snd_behind, attributeTargets_after]
      rw [← List.foldl_hom (behind log) fun acc slot =>
        assignSlot_behind log acc a k slot]
      rfl
  | none =>
      dsimp only
      split
      · split
        · exact assignRow_behind log acc a _ node k
        · exact assignSlot_behind log acc a k _
      · exact assignSlot_behind log acc a k _

/-- What is assigned at elements in a row does not depend on what was noted
before the first of them. -/
theorem assignElements_behind (a : Assignment) (xs : List (Nat × Nat)) :
    xs.foldl (fun acc x => assignElement a acc x.1 x.2) (behind log acc)
      = behind log
        (xs.foldl (fun acc x => assignElement a acc x.1 x.2) acc) :=
  List.foldl_hom (behind log) fun acc x =>
    assignElement_behind log acc a x.1 x.2

/-- What is told at the end of an assignment depends on its tally alone. -/
theorem conclude_behind (a : Assignment) :
    concludeAssignment a (behind log acc)
      = (concludeAssignment a acc).after log := by
  simp only [concludeAssignment, fst_behind, snd_behind, note_after]
  split <;> split <;> simp [*, note_after]

/-- Carrying a task out does not depend on the events before it. -/
theorem carryOut_after (index : ElementIndex) (task : Task) :
    (p.after log).carryOut index task
      = (p.carryOut index task).after log := by
  cases task with
  | malformed key why => exact note_after log p _
  | assign a =>
      simp only [carryOut, assign, resolve_after]
      split
      · exact note_after log _ _
      · rw [← conclude_behind]
        exact congrArg (concludeAssignment a)
          (assignElements_behind log (_, {}) a _)

/-- The events of a task come behind those that were there. -/
theorem carryOut_fresh (index : ElementIndex) (task : Task) :
    p.carryOut index task
      = (p.fresh.carryOut index task).after p.events := by
  rw [← carryOut_after, fresh_after]

-- ========================================================== namespaces

/-- A namespace is declared behind any events as without them. -/
theorem declare_after (name : QName) (uri : String) :
    (p.after log).declare name uri = (p.declare name uri).after log := by
  simp only [declare, doc_after]
  split <;> simp [note, after]

/-- An element gets its prefix behind any events as without them. -/
theorem addPrefix_behind (rule : PrefixRule) (y : Pass × Nat)
    (node : Nat) :
    addPrefix rule (behind log y) node
      = behind log (addPrefix rule y node) := by
  simp only [addPrefix, behind, doc_after]
  split <;> simp [note, after]

/-- Carrying a rule for prefixes out does not depend on the events before
it. -/
theorem applyPrefix_after (index : ElementIndex) (rule : PrefixRule) :
    (p.after log).applyPrefix index rule
      = (p.applyPrefix index rule).after log := by
  simp only [applyPrefix, resolve_after]
  split
  · exact note_after log _ _
  · have hfold : (p.resolve index rule.address).1.foldl (addPrefix rule)
          (behind log ((p.resolve index rule.address).2, 0))
        = behind log ((p.resolve index rule.address).1.foldl
          (addPrefix rule) ((p.resolve index rule.address).2, 0)) :=
      List.foldl_hom (behind log) fun y node =>
        addPrefix_behind log rule y node
    simp only [behind] at hfold
    simp only [hfold]
    split <;> simp [note_after]

/-- The namespaces do not depend on the events before them. -/
theorem applyNamespaces_after (index : ElementIndex)
    (rules : NamespaceRules) :
    (p.after log).applyNamespaces index rules
      = (p.applyNamespaces index rules).after log := by
  have hrest : ∀ q : Pass,
      rules.elements.foldl (applyPrefix index)
          (rules.prefixes.foldl
            (fun p entry => p.declare (.declaring (some entry.1)) entry.2)
            (q.after log))
        = (rules.elements.foldl (applyPrefix index)
          (rules.prefixes.foldl
            (fun p entry => p.declare (.declaring (some entry.1)) entry.2)
            q)).after log := by
    intro q
    rw [List.foldl_hom (after log) fun p (entry : String × String) =>
        declare_after log p (.declaring (some entry.1)) entry.2,
      List.foldl_hom (after log) fun p rule =>
        applyPrefix_after log p index rule]
  unfold applyNamespaces
  cases rules.defaultUri with
  | none => exact hrest p
  | some uri =>
      dsimp only
      rw [declare_after]
      exact hrest _

-- ======================================================== what is left

/-- What is left of a pass: some tasks, and the namespaces. -/
def goOn (index : ElementIndex) (tasks : List Task) (rules : NamespaceRules)
    (p : Pass) : Pass :=
  (tasks.foldl (carryOut index) p).applyNamespaces index rules

/-- It does not depend on the events before it. -/
theorem goOn_after (index : ElementIndex) (tasks : List Task)
    (rules : NamespaceRules) (log : List Event) (p : Pass) :
    (p.after log).goOn index tasks rules
      = (p.goOn index tasks rules).after log := by
  rw [goOn, List.foldl_hom (after log) fun p task =>
    carryOut_after log p index task, applyNamespaces_after]
  rfl

end Pass

end Overlay
