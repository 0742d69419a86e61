/-
Rows that the references of a pass share.

# Lookups

A reference that pins no row is looked up for the element with a number
(`Lookup`). Which lookups a pass makes is read off the pass: its folds are
observed while they run, each step before it is taken (`observed`). So the
lookups stand in the order in which they are made, each with the sources
as they are at that time. What else is to be seen of the values that a
pass asks for is observed in the same way (`Overrides.seen`).

# What they share

The rows that were drawn for a template since the pass began are kept, and
a lookup draws what is missing up to its number. Hence there are as many
of them as the greatest number asked for wants, or as many as there are
left; and every lookup so far has seen the row that is still kept under
its number (`Shares`). For a lookup that came too late for a template that
is used up, this says that nothing was drawn since: none is left.

A lookup of another template, a row that is looked up by its number, and
generated values leave all this alone, since the kept rows of a template
depend on nothing but the template, if its order is fixed.
-/
import Overlay.Proofs.Override.Passing
import Overlay.Proofs.Template.Drawing

namespace Overlay

-- ====================================================== observed folds

section

variable {σ α β : Type}

/-- What is seen along a fold, if `see` is what a step sees of the state
before it. -/
def observed (see : σ → α → List β) (step : σ → α → σ) :
    σ → List α → List β
  | _, [] => []
  | s, x :: xs => see s x ++ observed see step (step s x) xs

/-- What every step keeps, together with all that was seen so far, the
fold keeps. -/
theorem observed_keeps {keeps : List β → σ → Prop}
    {see : σ → α → List β} {step : σ → α → σ}
    (hstep : ∀ seen s x, keeps seen s →
      keeps (seen ++ see s x) (step s x))
    (xs : List α) {seen : List β} {s : σ} (h : keeps seen s) :
    keeps (seen ++ observed see step s xs) (xs.foldl step s) := by
  induction xs generalizing seen s with
  | nil => simpa [observed] using h
  | cons x xs ih =>
      rw [observed, ← List.append_assoc]
      exact ih (hstep seen s x h)

end

-- ============================================================= lookups

/-- What a reference that pins no row has seen. -/
structure Lookup where
  template : String
  /-- The number of the element, counted from zero. -/
  ordinal : Nat
  row : Option Row
  deriving DecidableEq

namespace Pass

/-- The lookup of a reference for the element with a number. -/
def lookup (r : RowRef) (k : Nat) (s : Sources) : List Lookup :=
  match r.row with
  | some _ => []
  | none => [⟨r.template, k, (Sources.sharedRow r k s).1⟩]

/-- The lookups of a value for the element with a number. -/
def valueLookups (value : ValueSpec) (k : Nat) (s : Sources) :
    List Lookup :=
  match value with
  | .templated r => lookup r k s
  | _ => []

section

variable {β : Type} (see : ValueSpec → Nat → Sources → List β)

/-- What an assignment sees on the element with a number, if `see` is what
is seen of the sources where a value is asked for: once, or once for each
of the attributes that it is for. -/
def seenOnElement (a : Assignment) (acc : Pass × Tally) (node k : Nat) :
    List β :=
  match a.address.attr with
  | some pattern =>
    let (names, p) := attributeTargets pattern a.creates node acc.1
    observed (fun acc _ => see a.value k acc.1.sources)
      (assignSlot a k) (p, acc.2) (names.map fun name => ⟨node, some name⟩)
  | none => see a.value k acc.1.sources

/-- What an assignment sees. -/
def seenInAssignment (index : ElementIndex) (p : Pass) (a : Assignment) :
    List β :=
  let (nodes, p) := p.resolve index a.address
  observed (fun acc x => seenOnElement see a acc x.1 x.2)
    (fun acc (node, k) => assignElement a acc node k) (p, {}) nodes.zipIdx

/-- What a step of a plan sees. -/
def seenInTask (index : ElementIndex) (p : Pass) : Task → List β
  | .assign a => seenInAssignment see index p a
  | .malformed _ _ => []

end

end Pass

/-- What the pass sees that applies overrides to a document. -/
def Overrides.seen {β : Type} (see : ValueSpec → Nat → Sources → List β)
    (o : Overrides) (doc : Xml.Document) : List β :=
  let start : Pass :=
    { doc := doc, resolver := o.resolver, sources := o.sources.beginPass }
  observed (Pass.seenInTask see (.ofDocument doc))
    (Pass.carryOut (.ofDocument doc)) start o.config.plan

/-- The lookups of the pass that applies overrides to a document. -/
def Overrides.lookups (o : Overrides) (doc : Xml.Document) : List Lookup :=
  o.seen Pass.valueLookups doc

/-- One more than the greatest number that is looked up in a template, or
zero if none is. -/
def asked (name : String) (seen : List Lookup) : Nat :=
  ((seen.filter (·.template == name)).map (·.ordinal + 1)).foldr max 0

variable {name : String} {seen : List Lookup} {l : Lookup}

/-- How far the rows of a template were asked for is the furthest of all that
was asked. -/
theorem asked_append (name : String) (seen more : List Lookup) :
    asked name (seen ++ more) = max (asked name seen) (asked name more) := by
  unfold asked
  induction seen with
  | nil => simp
  | cons l rest ih =>
      rw [List.cons_append, List.filter_cons, List.filter_cons]
      split
      · simp only [List.map_cons, List.foldr_cons, ih, max_assoc]
      · exact ih

theorem asked_singleton (name : String) (l : Lookup) :
    asked name [l] = if l.template = name then l.ordinal + 1 else 0 := by
  by_cases h : l.template = name <;> simp [asked, h]

/-- Everything that was asked for lies before that. -/
theorem lt_asked (hl : l ∈ seen) (h : l.template = name) :
    l.ordinal < asked name seen := by
  obtain ⟨before, after, rfl⟩ := List.append_of_mem hl
  rw [asked_append, ← List.singleton_append, asked_append,
    asked_singleton, if_pos h]
  omega

-- ========================================================== one lookup

/-- Whether the rows kept for a template are what the lookups so far have
seen, where `t` is the template at the beginning of the pass. -/
structure Shares (name : String) (t : Template) (seen : List Lookup)
    (s : Sources) : Prop where
  ahead : ∃ t', Table.find? name s.rows.templates = some t'
    ∧ t.Ahead (s.drawnFrom name).length t'
  length : (s.drawnFrom name).length = t.supplied (asked name seen)
  due : t.cycle ≠ .random → ∀ k < (s.drawnFrom name).length,
    (s.drawnFrom name)[k]? = t.dueRow name k
  rows : ∀ l ∈ seen, l.template = name →
    l.row = (s.drawnFrom name)[l.ordinal]?

variable {t : Template} {s s' : Sources}

/-- What leaves a template and its kept rows alone does not matter. -/
theorem Shares.congr (h : Shares name t seen s)
    (htemplate : Table.find? name s'.rows.templates
      = Table.find? name s.rows.templates)
    (hdrawn : s'.drawnFrom name = s.drawnFrom name) :
    Shares name t seen s' where
  ahead := by
    rw [htemplate, hdrawn]
    exact h.ahead
  length := by
    rw [hdrawn]
    exact h.length
  due := by
    rw [hdrawn]
    exact h.due
  rows := by
    rw [hdrawn]
    exact h.rows

/-- A draw that comes to nothing is the last one. -/
theorem drawRows_of_none {rows : RowSupply}
    (h : (RowSupply.next name rows).1 = none) (n : Nat) :
    Sources.drawRows name (n + 1) rows
      = ([], (RowSupply.next name rows).2) := by
  cases hnext : RowSupply.next name rows with
  | mk row after =>
      rw [hnext] at h
      subst h
      simp only [Sources.drawRows, bind, StateT.bind, hnext]
      rfl

/-- A draw that comes to a row is followed by the others. -/
theorem drawRows_of_some {rows : RowSupply} {row : Row}
    (h : (RowSupply.next name rows).1 = some row) (n : Nat) :
    Sources.drawRows name (n + 1) rows
      = (row :: (Sources.drawRows name n (RowSupply.next name rows).2).1,
        (Sources.drawRows name n (RowSupply.next name rows).2).2) := by
  cases hnext : RowSupply.next name rows with
  | mk drawn after =>
      rw [hnext] at h
      subst h
      simp only [Sources.drawRows, bind, StateT.bind, hnext]
      rfl

/-- What draws in a row come to. -/
theorem drawRows_spec {rows : RowSupply}
    (h : Table.find? name rows.templates = some t) (hrows : t.rows ≠ [])
    (n : Nat) :
    (Sources.drawRows name n rows).1.length = t.supplied n
      ∧ (∃ t', Table.find? name (Sources.drawRows name n rows).2.templates
          = some t'
        ∧ t.Ahead (Sources.drawRows name n rows).1.length t')
      ∧ (t.cycle ≠ .random →
        ∀ k < (Sources.drawRows name n rows).1.length,
          (Sources.drawRows name n rows).1[k]? = t.dueRow name k) := by
  induction n generalizing rows t with
  | zero =>
      have hnone : t.supplied 0 = 0 := by simp [Template.supplied]
      refine ⟨hnone.symm, ⟨t, h, .refl t⟩, fun _ k hk => ?_⟩
      exact absurd hk (Nat.not_lt_zero k)
  | succ n ih =>
      rcases RowSupply.next_spec h hrows with
        ⟨row, t', hnext, ht', hahead, hdue, hleft⟩
        | ⟨hnext, ht', honce, hover⟩
      · -- a row, and what the template it leaves behind supplies
        obtain ⟨hlength, ⟨t'', ht'', hahead'⟩, hrest⟩ :=
          ih ht' (hahead.rows ▸ hrows)
        rw [drawRows_of_some hnext]
        refine ⟨?_, ⟨t'', ht'', ?_⟩, fun hc k hk => ?_⟩
        · rw [List.length_cons, hlength]
          unfold Template.supplied
          rw [hahead.cycle, hahead.rows]
          split
          case isTrue honce =>
              rw [hahead.cursor (by simp [honce])]
              have := hleft honce
              omega
          case isFalse => rfl
        · rw [List.length_cons, Nat.add_comm]
          exact hahead.trans hahead'
        · cases k with
          | zero => exact (hdue hc).symm
          | succ k =>
              have hk : k < (Sources.drawRows name n
                  (RowSupply.next name rows).2).1.length := by
                simpa using hk
              rw [List.getElem?_cons_succ, hrest (hahead.cycle ▸ hc) k hk,
                hahead.dueRow hc, Nat.add_comm]
      · -- used up: the drawing stops here
        rw [drawRows_of_none hnext]
        refine ⟨?_, ⟨t, ht', .refl t⟩, fun _ k hk => ?_⟩
        · rw [Template.supplied, if_pos honce, List.length_nil]
          omega
        · exact absurd hk (Nat.not_lt_zero k)

/-- Draws in a row leave the other templates alone. -/
theorem find?_drawRows {other : String} (h : name ≠ other) (n : Nat)
    (rows : RowSupply) :
    Table.find? other (Sources.drawRows name n rows).2.templates
      = Table.find? other rows.templates := by
  have hnext : ∀ rows : RowSupply,
      Table.find? other (RowSupply.next name rows).2.templates
        = Table.find? other rows.templates := by
    intro rows
    rw [RowSupply.find?_next]
    simp [h]
  induction n generalizing rows with
  | zero => rfl
  | succ n ih =>
      cases hn : (RowSupply.next name rows).1 with
      | none =>
          rw [drawRows_of_none hn]
          exact hnext rows
      | some row =>
          rw [drawRows_of_some hn]
          exact (ih _).trans (hnext rows)

/-- To look a row up draws those that are missing up to it and leaves what was
drawn before in front. -/
theorem drawnFrom_drawnRow (name : String) (k : Nat) (s : Sources) :
    (Sources.drawnRow name k s).2.drawnFrom name
      = s.drawnFrom name
        ++ (Sources.drawRows name (k + 1 - (s.drawnFrom name).length)
          s.rows).1 := by
  show (Table.find? name (Table.insert name _ s.drawn)).getD [] = _
  rw [Table.find?_insert_self]
  rfl

/-- The row that is handed out is the one with its ordinal among those that
were drawn, or there is none. -/
theorem drawnRow_fst (name : String) (k : Nat) (s : Sources) :
    (Sources.drawnRow name k s).1
      = ((Sources.drawnRow name k s).2.drawnFrom name)[k]? := by
  rw [drawnFrom_drawnRow]
  rfl

/-- A lookup of the template draws what is missing, and nothing if the
template is used up. -/
theorem Shares.drawnRow (h : Shares name t seen s) (hrows : t.rows ≠ [])
    (k : Nat) :
    Shares name t (seen ++ [⟨name, k, (Sources.drawnRow name k s).1⟩])
      (Sources.drawnRow name k s).2 := by
  obtain ⟨t', ht', hahead⟩ := h.ahead
  obtain ⟨hlength, ⟨t'', ht'', hahead'⟩, hdue⟩ :=
    drawRows_spec ht' (hahead.rows ▸ hrows)
      (k + 1 - (s.drawnFrom name).length)
  have hkept := drawnFrom_drawnRow name k s
  rw [drawnRow_fst]
  generalize (Sources.drawRows name (k + 1 - (s.drawnFrom name).length)
    s.rows).1 = added at *
  have hbefore := h.length
  have hasked : ∀ row, asked name (seen ++ [⟨name, k, row⟩])
      = max (asked name seen) (k + 1) := by
    intro row
    rw [asked_append, asked_singleton, if_pos rfl]
  have hgrown : (s.drawnFrom name).length + added.length
      = t.supplied (max (asked name seen) (k + 1)) := by
    rw [hlength, hbefore]
    exact (hbefore ▸ hahead).supplied (k + 1)
  constructor
  case ahead =>
      refine ⟨t'', ht'', ?_⟩
      rw [hkept, List.length_append]
      exact hahead.trans hahead'
  case length =>
      rw [hkept, List.length_append, hasked, hgrown]
  case due =>
      intro hc j hj
      rw [hkept] at hj ⊢
      by_cases hlt : j < (s.drawnFrom name).length
      · rw [List.getElem?_append_left hlt, h.due hc j hlt]
      · have hle := Nat.not_lt.mp hlt
        rw [List.length_append] at hj
        rw [List.getElem?_append_right hle,
          hdue (hahead.cycle ▸ hc) _ (by omega), hahead.dueRow hc,
          Nat.add_sub_cancel' hle]
  case rows =>
      intro l hl hname
      rcases List.mem_append.mp hl with hl | hl
      · have hlt := lt_asked hl hname
        rw [h.rows l hl hname, hkept]
        by_cases hin : l.ordinal < (s.drawnFrom name).length
        · rw [List.getElem?_append_left hin]
        · -- the lookup came too late: all rows were drawn, and still are
          have hnone : added = [] := by
            rw [← List.length_eq_zero_iff]
            unfold Template.supplied at hgrown hbefore
            split at hbefore
            case isTrue honce =>
                rw [if_pos honce] at hgrown
                omega
            case isFalse => omega
          rw [hnone, List.append_nil]
      · rw [List.mem_singleton.mp hl]

/-- A lookup of another template leaves a template and its kept rows
alone. -/
theorem Shares.drawnRow_of_ne {other : String} (h : Shares name t seen s)
    (hne : other ≠ name) (k : Nat) :
    Shares name t
      (seen ++ [⟨other, k, (Sources.drawnRow other k s).1⟩])
      (Sources.drawnRow other k s).2 := by
  have hdrawn : (Sources.drawnRow other k s).2.drawnFrom name
      = s.drawnFrom name := by
    show (Table.find? name (Table.insert other _ s.drawn)).getD [] = _
    rw [Table.find?_insert_of_ne hne]
    rfl
  have hkeep := h.congr (find?_drawRows hne ..) hdrawn
  refine ⟨hkeep.ahead, ?_, hkeep.due, fun l hl hname => ?_⟩
  · rw [asked_append, asked_singleton, if_neg hne, Nat.max_zero]
    exact hkeep.length
  · rcases List.mem_append.mp hl with hl | hl
    · exact hkeep.rows l hl hname
    · rw [List.mem_singleton.mp hl] at hname
      exact absurd hname hne

/-- If the order is fixed, what is kept under a number that was looked up
is what is due under it. -/
theorem Shares.row_of_fixed (h : Shares name t seen s)
    (hc : t.cycle ≠ .random) {k : Nat} (hk : k < asked name seen) :
    (s.drawnFrom name)[k]? = t.dueRow name k := by
  by_cases hlt : k < (s.drawnFrom name).length
  · exact h.due hc k hlt
  · have hlength := h.length
    unfold Template.supplied at hlength
    split at hlength
    case isTrue honce =>
        rw [Template.dueRow_of_once honce name (by omega),
          List.getElem?_eq_none (Nat.not_lt.mp hlt)]
    case isFalse => omega

-- ============================================================ the pass

namespace Pass

/-- A reference that is evaluated is looked up, unless it pins a row. -/
theorem shares_lookup (hrows : t.rows ≠ []) (r : RowRef) (k : Nat)
    (h : Shares name t seen s) :
    Shares name t (seen ++ lookup r k s) (Sources.sharedRow r k s).2 := by
  unfold lookup Sources.sharedRow
  cases r.row with
  | some number =>
      rw [List.append_nil]
      refine h.congr ?_ rfl
      show Table.find? name (RowSupply.rowAt r.template number
        s.rows).2.templates = _
      rw [(RowSupply.rowAt_templates ..).1]
  | none =>
      by_cases hname : r.template = name
      · rw [hname]
        exact h.drawnRow hrows k
      · exact h.drawnRow_of_ne hname k

/-- What lookups keep, together with all lookups so far, and generated
values with them. -/
structure KeptByDraws (keeps : List Lookup → Sources → Prop) : Prop where
  lookup : ∀ r k seen s, keeps seen s →
    keeps (seen ++ lookup r k s) (Sources.sharedRow r k s).2
  generate : ∀ spec seen s, keeps seen s →
    keeps seen (Sources.generate spec s).2

/-- A look-up keeps what is shared, whichever template it is for. -/
theorem shares_kept (hrows : t.rows ≠ []) : KeptByDraws (Shares name t) where
  lookup r k _ _ h := shares_lookup hrows r k h
  generate _ _ _ h := h.congr rfl rfl

/-- What values keep that are asked for, together with all that is seen of
them. -/
def KeptByValues {β : Type} (see : ValueSpec → Nat → Sources → List β)
    (keeps : List β → Sources → Prop) : Prop :=
  ∀ value k seen s, keeps seen s →
    keeps (seen ++ see value k s) (Sources.textFor? value k s).2

/-- A property that look-ups keep is kept by the text for a value, which looks
up one row at most and touches nothing else of the sources. -/
theorem KeptByDraws.values {keeps : List Lookup → Sources → Prop}
    (hkeeps : KeptByDraws keeps) : KeptByValues valueLookups keeps := by
  intro value k seen s h
  cases value with
  | literal text =>
      show keeps (seen ++ []) s
      rwa [List.append_nil]
  | generated spec =>
      show keeps (seen ++ []) (Sources.generate spec s).2
      rw [List.append_nil]
      exact hkeeps.generate spec seen s h
  | templated r => exact hkeeps.lookup r k seen s h

/-- Writing draws nothing. -/
theorem writeCounted_sources (w : Write) (acc : Pass × Tally) :
    (writeCounted w acc).1.sources = acc.1.sources := by
  have hput : ∀ p : Pass, (p.put w).1.sources = p.sources := by
    intro p
    unfold put
    split <;> rfl
  show (acc.1.write w).1.sources = _
  unfold write
  split
  · split
    · rfl
    · exact hput _
  · exact hput _

/-- The fields of a row that was looked up are written without another
look-up. -/
theorem fillRow_sources (a : Assignment) (node : Nat) (row : Row)
    (start : Pass × Tally) :
    (fillRow a node row start).1.sources = start.1.sources := by
  refine foldl_keeps (fun acc : Pass × Tally => acc.1.sources) ?_ row start
  rintro acc ⟨field, value⟩
  dsimp only
  split
  · exact writeCounted_sources ..
  · rfl

/-- A slot takes its text from the sources, whatever becomes of it. -/
theorem assignSlot_sources (a : Assignment) (k : Nat) (acc : Pass × Tally)
    (slot : Slot) : (assignSlot a k acc slot).1.sources
      = (Sources.textFor? a.value k acc.1.sources).2 := by
  simp only [assignSlot, found]
  rcases Sources.textFor? a.value k acc.1.sources with ⟨_ | text, sources⟩
  · rfl
  · exact writeCounted_sources ..

/-- A row is looked up once, whatever becomes of its fields. -/
theorem assignRow_sources (a : Assignment) (r : RowRef) (node k : Nat)
    (acc : Pass × Tally) : (assignRow a r node k acc).1.sources
      = (Sources.sharedRow r k acc.1.sources).2 := by
  simp only [assignRow, found]
  rcases Sources.sharedRow r k acc.1.sources with ⟨_ | row, sources⟩
  · rfl
  · exact fillRow_sources ..

/-- To find attributes takes nothing from the sources. -/
theorem attributeTargets_sources (pattern : String) (creates : Bool)
    (node : Nat) (p : Pass) :
    (attributeTargets pattern creates node p).2.sources = p.sources := by
  unfold attributeTargets
  split
  · rfl
  · split <;> rfl

section

variable {β : Type} {see : ValueSpec → Nat → Sources → List β}
  {keeps : List β → Sources → Prop}

/-- What is kept by texts for values is kept at a slot. -/
theorem KeptByValues.slot (hkeeps : KeptByValues see keeps)
    (a : Assignment) (k : Nat) (seen : List β) (acc : Pass × Tally)
    (slot : Slot) (h : keeps seen acc.1.sources) :
    keeps (seen ++ see a.value k acc.1.sources)
      (assignSlot a k acc slot).1.sources := by
  rw [assignSlot_sources]
  exact hkeeps a.value k seen _ h

/-- What is kept by texts for values is kept at an element, over all slots that
are meant there. -/
theorem KeptByValues.element (hkeeps : KeptByValues see keeps)
    (a : Assignment) (seen : List β) (acc : Pass × Tally) (node k : Nat)
    (h : keeps seen acc.1.sources) :
    keeps (seen ++ seenOnElement see a acc node k)
      (assignElement a acc node k).1.sources := by
  unfold seenOnElement assignElement
  cases a.address.attr with
  | some pattern =>
      refine @observed_keeps (Pass × Tally) Slot β
        (fun seen acc => keeps seen acc.1.sources) _ _
        (hkeeps.slot a k) _ _ _ ?_
      show keeps seen (attributeTargets ..).2.sources
      rwa [attributeTargets_sources]
  | none =>
      dsimp only
      split
      case h_1 r hvalue =>
          split
          · -- a row as a whole is asked for like a field of it
            rw [assignRow_sources, hvalue]
            exact hkeeps (.templated r) k seen _ h
          · exact hkeeps.slot a k seen acc _ h
      case h_2 => exact hkeeps.slot a k seen acc _ h

/-- What is kept by texts for values is kept by an assignment. The induction is
on its elements, each with its ordinal. -/
theorem KeptByValues.assignment (hkeeps : KeptByValues see keeps)
    (index : ElementIndex) (a : Assignment) (seen : List β) (p : Pass)
    (h : keeps seen p.sources) :
    keeps (seen ++ seenInAssignment see index p a)
      (p.assign index a).sources := by
  have hconclude : ∀ acc : Pass × Tally,
      (concludeAssignment a acc).sources = acc.1.sources := by
    intro acc
    unfold concludeAssignment
    dsimp only
    split <;> split <;> rfl
  have hfold := @observed_keeps (Pass × Tally) (Nat × Nat) β
    (fun seen acc => keeps seen acc.1.sources)
    (fun acc x => seenOnElement see a acc x.1 x.2)
    (fun acc (node, k) => assignElement a acc node k)
    (fun seen acc x => hkeeps.element a seen acc x.1 x.2)
    (p.resolve index a.address).1.zipIdx seen
    ((p.resolve index a.address).2, {}) h
  unfold seenInAssignment assign
  dsimp only
  split
  case h_1 hnodes =>
      rw [hnodes] at hfold ⊢
      exact hfold
  case h_2 => rwa [hconclude]

/-- What is kept by texts for values is kept by a task; one that is no
assignment takes nothing from the sources. -/
theorem KeptByValues.task (hkeeps : KeptByValues see keeps)
    (index : ElementIndex) (seen : List β) (p : Pass) (task : Task)
    (h : keeps seen p.sources) :
    keeps (seen ++ seenInTask see index p task)
      (p.carryOut index task).sources := by
  cases task with
  | assign a => exact hkeeps.assignment index a seen p h
  | malformed key why =>
      show keeps (seen ++ []) p.sources
      rwa [List.append_nil]

end

end Pass

-- ========================================================= the results

namespace Overrides

/-- What values keep holds of the sources when all assignments are through,
together with all that was seen. -/
theorem keeps_seen {β : Type} {see : ValueSpec → Nat → Sources → List β}
    {keeps : List β → Sources → Prop}
    (hkeeps : Pass.KeptByValues see keeps) (o : Overrides)
    (doc : Xml.Document) (h : keeps [] o.sources.beginPass) :
    keeps (o.seen see doc) (o.assigned doc).sources :=
  @observed_keeps Pass Task β (fun seen p => keeps seen p.sources) _ _
    (hkeeps.task (.ofDocument doc)) o.config.plan []
    { doc := doc, resolver := o.resolver, sources := o.sources.beginPass } h

/-- At the end of its assignments a pass keeps what all its lookups have
seen. -/
theorem shares_lookups (o : Overrides) (doc : Xml.Document)
    (ht : Table.find? name o.sources.rows.templates = some t)
    (hrows : t.rows ≠ []) :
    Shares name t (o.lookups doc) (o.assigned doc).sources := by
  have hnothing : o.sources.beginPass.drawnFrom name = [] := rfl
  have hbegin : Shares name t [] o.sources.beginPass :=
    { ahead := ⟨t, ht, .refl t⟩
      length := by rw [hnothing]; simp [asked, Template.supplied]
      due := fun _ k hk => absurd hk (Nat.not_lt_zero k)
      rows := by simp }
  exact keeps_seen (Pass.shares_kept hrows).values o doc hbegin

/-- Namespaces draw nothing: the sources are left as they are when all
assignments are through, but for the notes, which are taken. -/
theorem apply_sources (o : Overrides) (doc : Xml.Document) :
    (o.apply doc).2.2.sources
      = { (o.assigned doc).sources with
          rows := { (o.assigned doc).sources.rows with issues := [] } } :=
  congrArg (fun s : Sources => { s with rows := { s.rows with issues := [] } })
    (Pass.applyNamespaces_keeps Pass.sources
      (fun _ _ _ => rfl) (fun _ _ => rfl) (fun _ _ => rfl) ..)

/-- What a lookup sees if the order of the rows is fixed. -/
theorem row_of_mem_lookups {o : Overrides} {doc : Xml.Document}
    (ht : Table.find? name o.sources.rows.templates = some t)
    (hrows : t.rows ≠ []) (hc : t.cycle ≠ .random)
    (hl : l ∈ o.lookups doc) (hname : l.template = name) :
    l.row = t.dueRow name l.ordinal := by
  have hshares := o.shares_lookups doc ht hrows
  rw [hshares.rows l hl hname, hshares.row_of_fixed hc (lt_asked hl hname)]

/-- The references of a pass to a template with rows share what is drawn
from it: for one number they see the same row, or all of them none. If the
order of the rows is fixed it is the row that draws in a row would have
come to, had the pass begun with them, whatever else is drawn or looked
up. A template that hands out every row once has none for the numbers
behind its last row; any other has one for each. As many rows are drawn as
the greatest number that is looked up wants, and the template has. -/
theorem rows_shared (o : Overrides) (doc : Xml.Document)
    (ht : Table.find? name o.sources.rows.templates = some t)
    (hrows : t.rows ≠ []) :
    let seen := (o.lookups doc).filter (·.template == name)
    let left := t.rows.length - t.cursor
    (∀ l ∈ seen, ∀ l' ∈ seen, l.ordinal = l'.ordinal → l.row = l'.row)
    ∧ (t.cycle ≠ .random → ∀ l ∈ seen,
        l.row = RowSupply.answer name l.ordinal o.sources.rows)
    ∧ (t.cycle ≠ .random → ∀ (o' : Overrides) (doc' : Xml.Document),
        Table.find? name o'.sources.rows.templates = some t →
        ∀ l ∈ seen, ∀ l' ∈ o'.lookups doc', l'.template = name →
          l.ordinal = l'.ordinal → l.row = l'.row)
    ∧ (t.cycle = .once → ∀ l ∈ seen, l.row = none ↔ left ≤ l.ordinal)
    ∧ (t.cycle ≠ .once → ∀ l ∈ seen, l.row ≠ none)
    ∧ ∃ t', Table.find? name (o.apply doc).2.2.sources.rows.templates
          = some t'
        ∧ t'.served = t.served
          + if t.cycle = .once then min (asked name (o.lookups doc)) left
            else asked name (o.lookups doc) := by
  have hshares := o.shares_lookups doc ht hrows
  have hlength := hshares.length
  have hsources : (o.apply doc).2.2.sources.rows.templates
      = (o.assigned doc).sources.rows.templates :=
    congrArg (·.rows.templates) (o.apply_sources doc)
  obtain ⟨t', ht', hahead⟩ := hshares.ahead
  intro seen left
  have hseen : ∀ l ∈ seen, l ∈ o.lookups doc ∧ l.template = name := by
    intro l hl
    obtain ⟨hl, hname⟩ := List.mem_filter.mp hl
    exact ⟨hl, beq_iff_eq.mp hname⟩
  have hrow : ∀ l ∈ seen, l.ordinal < asked name (o.lookups doc)
      ∧ l.row = ((o.assigned doc).sources.drawnFrom name)[l.ordinal]? := by
    intro l hl
    obtain ⟨hl, hname⟩ := hseen l hl
    exact ⟨lt_asked hl hname, hshares.rows l hl hname⟩
  refine ⟨?_, ?_, ?_, ?_, ?_, t', hsources ▸ ht', ?_⟩
  · -- lookups under one number
    intro l hl l' hl' hsame
    rw [(hrow l hl).2, (hrow l' hl').2, hsame]
  · -- draws in a row
    intro hc l hl
    obtain ⟨hl, hname⟩ := hseen l hl
    rw [row_of_mem_lookups ht hrows hc hl hname,
      RowSupply.answer_eq_dueRow ht hrows hc]
  · -- other passes that begin with the same template
    intro hc o' doc' ht₂ l hl l' hl' hname' hsame
    obtain ⟨hl, hname⟩ := hseen l hl
    rw [row_of_mem_lookups ht hrows hc hl hname,
      row_of_mem_lookups ht₂ hrows hc hl' hname', hsame]
  · -- a template that is used up
    intro honce l hl
    obtain ⟨hlt, hrow⟩ := hrow l hl
    rw [hrow, List.getElem?_eq_none_iff, hlength, Template.supplied,
      if_pos honce]
    omega
  · -- a template that never is
    intro honce l hl
    obtain ⟨hlt, hrow⟩ := hrow l hl
    rw [hrow, Ne, List.getElem?_eq_none_iff, hlength, Template.supplied,
      if_neg honce]
    omega
  · -- the number of draws
    rw [hahead.served, hlength, Template.supplied]

/-- A template of two rows, each of which is handed out once. -/
def twoTags : Template :=
  .ofSpec {
    name := "Tag", rows := [[("n", "1")], [("n", "2")]], cycle := .once }

/-- The attributes at an address are given the numbers of the tags. -/
def tagging (a : Address) : Overrides :=
  { (default : Overrides) with
    config := { (default : Config) with
      values := []
      patterns := []
      attributes := [⟨"a@n", .address a,
        .templated ⟨"@Tag.n", "Tag", none, some "n"⟩⟩] }
    sources := { (default : Sources) with
      rows := { (default : RowSupply) with templates := [("Tag", twoTags)] } } }

/-- There are three elements, and tags for two. -/
theorem rows_shared_two_of_three :
    ∃ doc a, Xml.Document.parse "<r><a/><a/><a/></r>" = some doc
      ∧ Address.parse "a@n" = .ok a
      ∧ Table.find? "Tag" (tagging a).sources.rows.templates = some twoTags
      ∧ twoTags.rows ≠ []
      ∧ (tagging a).lookups doc = [⟨"Tag", 0, some [("n", "1")]⟩,
          ⟨"Tag", 1, some [("n", "2")]⟩, ⟨"Tag", 2, none⟩]
      ∧ ∃ t', Table.find? "Tag"
          ((tagging a).apply doc).2.2.sources.rows.templates = some t'
        ∧ t'.served = 2 := by
  have hdoc : (Xml.Document.parse "<r><a/><a/><a/></r>").isSome = true := by
    decide +kernel +revert
  have ha : (Address.parse "a@n").toOption.isSome = true := by
    decide +kernel +revert
  have hplan : ∀ a, (tagging a).config.plan
      = [.assign ⟨.attributes, "a@n", a,
        .templated ⟨"@Tag.n", "Tag", none, some "n"⟩, true⟩] := by
    intro a
    simp [tagging, Config.plan, phaseTasks, bySpecificity]
    rfl
  have hrows : twoTags.rows ≠ [] := by decide
  have hlookups : (tagging ((Address.parse "a@n").toOption.get ha)).lookups
      ((Xml.Document.parse "<r><a/><a/><a/></r>").get hdoc)
        = [⟨"Tag", 0, some [("n", "1")]⟩, ⟨"Tag", 1, some [("n", "2")]⟩,
          ⟨"Tag", 2, none⟩] := by
    unfold lookups seen
    rw [hplan]
    decide +kernel +revert
  have ht : ∀ a, Table.find? "Tag" (tagging a).sources.rows.templates
      = some twoTags := fun _ => rfl
  refine ⟨_, _, (Option.some_get hdoc).symm,
    toOption_eq_some_iff.mp (Option.some_get ha).symm, ht _, hrows,
    hlookups, ?_⟩
  obtain ⟨-, -, -, -, -, t', ht', hserved⟩ := rows_shared _
    ((Xml.Document.parse "<r><a/><a/><a/></r>").get hdoc) (ht _) hrows
  rw [hlookups] at hserved
  exact ⟨t', ht', hserved⟩

end Overrides

end Overlay
