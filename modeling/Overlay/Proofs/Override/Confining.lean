/-
What a pass leaves alone.

# What a configuration addresses

`Overrides.reach` says where a pass over a document may change it, in
terms of the entries of the configuration and of the document as it was:
the elements that the entries resolve to, those that the fields of a row
lead to from there, the attributes that an entry names or matches, and the
declarations and prefixes that the namespaces ask for.

# Why nothing else changes

A pass finds its targets in the document that it changes, except for the
elements of an address. So the targets are traced back: ways of names lead
to the same elements, since the outline of the document stays; an
attribute that a wildcard finds was there before, or an entry has added
it; and a row that is given comes from the templates as they were
(`Sources.Hands`). Hence a slot that is written to is within reach
(`Overrides.Admits`), whatever was written before, and one write after the
other keeps the changes confined (`Pass.Confined`).
-/
import Overlay.Proofs.Override.Sharing
import Overlay.Proofs.Xml.Outlining

namespace Overlay

open Xml Wildcard

-- ================================================================ rows

/-- The rows of a template, completed. -/
def RowSupply.rowsOf (s : RowSupply) (name : String) : List Row :=
  match Table.find? name s.templates with
  | none => []
  | some t => t.rows.map fun row => (t.completed name row).1

/-- The rows that a reference may give: the one that it pins, or any. -/
def RowRef.rowsFrom (r : RowRef) (s : RowSupply) : List Row :=
  match r.row with
  | none => s.rowsOf r.template
  | some 0 => []
  | some (number + 1) => ((s.rowsOf r.template)[number]?).toList

namespace RowSupply

variable {s s' : RowSupply} {name : String} {row : Row}

/-- What was drawn from a template has no part in its rows. -/
theorem rowsOf_congr (h : (Table.find? name s'.templates).map Template.rewind
      = (Table.find? name s.templates).map Template.rewind) :
    s'.rowsOf name = s.rowsOf name := by
  have hview : ∀ s : RowSupply, s.rowsOf name
      = ((Table.find? name s.templates).map Template.rewind).elim []
          fun t => t.rows.map fun row => (t.completed name row).1 := by
    intro s
    rw [rowsOf]
    cases Table.find? name s.templates <;> rfl
  rw [hview s', hview s, h]

/-- A draw hands out a row of its template. -/
theorem mem_rowsOf_of_next (h : (next name s).1 = some row) :
    row ∈ s.rowsOf name := by
  rw [rowsOf]
  cases ht : Table.find? name s.templates with
  | none =>
      rw [next, ht] at h
      cases h
  | some t =>
      rw [next_fst ht] at h
      obtain ⟨⟨i, moved⟩, -, h⟩ := Option.bind_eq_some_iff.mp h
      obtain ⟨raw, hraw, rfl⟩ := Option.map_eq_some_iff.mp h
      exact List.mem_map_of_mem (List.mem_of_getElem? hraw)

/-- So does a lookup by a number. -/
theorem rowAt_fst (name : String) (number : Nat) (s : RowSupply) :
    (rowAt name number s).1
      = if number = 0 then none else (s.rowsOf name)[number - 1]? := by
  rw [rowAt, rowsOf]
  cases Table.find? name s.templates with
  | none => simp
  | some t =>
      by_cases hn : number = 0
      · simp [hn]
      · cases hrow : t.rows[number - 1]? with
        | none => simp [hn, hrow]
        | some raw => simp [hn, hrow, finish]

/-- A draw changes no template but for what it counts. -/
theorem rewind_find?_next (name other : String) (s : RowSupply) :
    (Table.find? other (next name s).2.templates).map Template.rewind
      = (Table.find? other s.templates).map Template.rewind := by
  rw [find?_next, Option.map_map]
  refine congrArg (Option.map · _) (funext fun t => ?_)
  show Template.rewind (if name = other then t.drawn s.stream else t) = _
  split
  · exact t.rewind_drawn s.stream
  · rfl

end RowSupply

namespace Sources

variable {supply : RowSupply} {s : Sources}

/-- Whether the sources hand out rows of a supply only: their templates
are those of the supply, and so are the rows that were drawn before. -/
structure Hands (supply : RowSupply) (s : Sources) : Prop where
  templates : ∀ name,
    (Table.find? name s.rows.templates).map Template.rewind
      = (Table.find? name supply.templates).map Template.rewind
  drawn : ∀ name, ∀ row ∈ s.drawnFrom name, row ∈ supply.rowsOf name

theorem hands_beginPass (s : Sources) : Hands s.rows s.beginPass :=
  ⟨fun _ => rfl, fun _ _ h => by cases h⟩

theorem Hands.rowsOf (h : Hands supply s) (name : String) :
    s.rows.rowsOf name = supply.rowsOf name :=
  RowSupply.rowsOf_congr (h.templates name)

/-- Several draws hand out rows of their template. -/
theorem drawRows_rowsOf (name : String) (n : Nat) (rows : RowSupply) :
    (∀ row ∈ (drawRows name n rows).1, row ∈ rows.rowsOf name)
      ∧ ∀ other, (Table.find? other (drawRows name n rows).2.templates).map
          Template.rewind
        = (Table.find? other rows.templates).map Template.rewind := by
  induction n generalizing rows with
  | zero => exact ⟨fun _ h => (by cases h), fun _ => rfl⟩
  | succ n ih =>
      have hnext := fun other => RowSupply.rewind_find?_next name other rows
      cases hn : (RowSupply.next name rows).1 with
      | none =>
          rw [drawRows_of_none hn]
          exact ⟨fun _ h => (by cases h), hnext⟩
      | some row =>
          obtain ⟨hrows, htemplates⟩ := ih (RowSupply.next name rows).2
          rw [drawRows_of_some hn]
          refine ⟨fun r hr => ?_,
            fun other => (htemplates other).trans (hnext other)⟩
          rcases List.mem_cons.mp hr with rfl | hr
          · exact RowSupply.mem_rowsOf_of_next hn
          · rw [← RowSupply.rowsOf_congr (hnext name)]
            exact hrows r hr

/-- Looking a row up by its number leaves the rows as they are. -/
theorem Hands.rowAt (h : Hands supply s) (name : String) (number : Nat) :
    Hands supply { s with
      rows := (RowSupply.rowAt name number s.rows).2 } := by
  have htemplates := (RowSupply.rowAt_templates name number s.rows).1
  refine ⟨fun other => ?_, h.drawn⟩
  show (Table.find? other (RowSupply.rowAt name number
    s.rows).2.templates).map Template.rewind = _
  rw [htemplates]
  exact h.templates other

/-- Drawing a row hands out one of the template. -/
theorem Hands.drawnRow (h : Hands supply s) (name : String) (k : Nat) :
    Hands supply (Sources.drawnRow name k s).2
      ∧ ∀ row, (Sources.drawnRow name k s).1 = some row →
        row ∈ supply.rowsOf name := by
  obtain ⟨hadded, htemplates⟩ := drawRows_rowsOf name
    (k + 1 - (s.drawnFrom name).length) s.rows
  have hkept : ∀ row ∈ (Sources.drawnRow name k s).2.drawnFrom name,
      row ∈ supply.rowsOf name := by
    intro row hrow
    rw [drawnFrom_drawnRow, List.mem_append] at hrow
    rcases hrow with hrow | hrow
    · exact h.drawn _ row hrow
    · exact h.rowsOf name ▸ hadded row hrow
  refine ⟨⟨fun other => (htemplates other).trans (h.templates other),
    fun other row hrow => ?_⟩, fun row hrow => ?_⟩
  · by_cases hname : name = other
    · exact hname ▸ hkept row (hname ▸ hrow)
    · refine h.drawn other row ?_
      have hother : (Sources.drawnRow name k s).2.drawnFrom other
          = s.drawnFrom other := by
        show (Table.find? other (Table.insert name _ s.drawn)).getD [] = _
        rw [Table.find?_insert_of_ne hname]
        rfl
      exact hother ▸ hrow
  · rw [drawnRow_fst] at hrow
    exact hkept row (List.mem_of_getElem? hrow)

/-- Evaluating a reference hands out one of its rows. -/
theorem Hands.sharedRow (h : Hands supply s) (r : RowRef) (k : Nat) :
    Hands supply (Sources.sharedRow r k s).2
      ∧ ∀ row, (Sources.sharedRow r k s).1 = some row →
        row ∈ r.rowsFrom supply := by
  unfold Sources.sharedRow RowRef.rowsFrom
  cases r.row with
  | some number =>
      refine ⟨h.rowAt r.template number, fun row hrow => ?_⟩
      have hrow := (RowSupply.rowAt_fst r.template number s.rows).symm.trans
        hrow
      rw [h.rowsOf] at hrow
      cases number with
      | zero => cases hrow
      | succ number =>
          rw [if_neg (Nat.succ_ne_zero number)] at hrow
          exact Option.mem_toList.mpr hrow
  | none => exact h.drawnRow r.template k

/-- The text for a value is taken from rows of the supply. -/
theorem Hands.textFor? (h : Hands supply s) (value : ValueSpec) (k : Nat) :
    Hands supply (Sources.textFor? value k s).2 := by
  cases value with
  | literal text => exact h
  | generated spec => exact ⟨h.templates, h.drawn⟩
  | templated r => exact (h.sharedRow r k).1

end Sources

-- =================================================== what is addressed

/-- Whether an assignment that is carried out on an element may change the
text of another one: a whole row goes to the elements below that its
fields lead to, anything else to the element itself. -/
def Assignment.Supplies (doc : Document) (supply : RowSupply)
    (a : Assignment) (node target : Nat) : Prop :=
  match a.value with
  | .templated r =>
    if r.field = none then
      ∃ row ∈ r.rowsFrom supply, ∃ field ∈ Table.names row,
        Pass.fieldElement doc node field = some target
    else node = target
  | _ => node = target

/-- The elements that get a prefix by a rule. -/
def PrefixRule.nodes (doc : Document) (aliases : Table String)
    (rule : PrefixRule) : List Nat :=
  (((ElementIndex.ofDocument doc).resolve aliases rule.address).run
    default).1

/-- Whether the rules for namespaces declare something by an attribute of
that name. -/
def NamespaceRules.Declares (rules : NamespaceRules) (name : String) :
    Prop :=
  (rules.defaultUri ≠ none ∧ name = (QName.declaring none).qualified)
    ∨ ∃ p ∈ Table.names rules.prefixes,
      name = (QName.declaring (some p)).qualified

namespace Overrides

/-- Whether an assignment resolves to an element. -/
def Resolves (o : Overrides) (doc : Document) (a : Assignment) (i : Nat) :
    Prop :=
  a ∈ o.assignments ∧ i ∈ a.nodes doc o.resolver.aliases

/-- What the configuration addresses in a document. -/
def reach (o : Overrides) (doc : Document) : Reach where
  text i := ∃ a node, o.Resolves doc a node ∧ a.address.attr = none
    ∧ a.Supplies doc o.sources.rows node i
  value i name :=
    (∃ a pattern, o.Resolves doc a i ∧ a.address.attr = some pattern
      ∧ isMatch pattern name = true)
    ∨ i = doc.root ∧ o.config.namespaces.Declares name
  addition i name :=
    (∃ a, o.Resolves doc a i ∧ a.address.attr = some name
      ∧ isWild name = false ∧ a.creates = true)
    ∨ i = doc.root ∧ o.config.namespaces.Declares name
  nsPrefix i := ∃ rule ∈ o.config.namespaces.elements,
    i ∈ rule.nodes doc o.resolver.aliases

/-- Whether a slot may be written to: an attribute only if it may get
another value, and if it was there before or may be added. -/
def Admits (o : Overrides) (doc : Document) (slot : Slot) : Prop :=
  match slot.attr with
  | none => (o.reach doc).text slot.node
  | some name => (o.reach doc).value slot.node name
    ∧ ((∃ a ∈ doc.attributes slot.node, a.name.qualified = name)
      ∨ (o.reach doc).addition slot.node name)

end Overrides

-- ============================================================== writes

namespace Pass

variable {o : Overrides} {doc : Document} {p : Pass} {acc : Pass × Tally}

/-- A pass over a document whose changes are confined to what the
configuration addresses. -/
structure Confined (o : Overrides) (doc : Document) (p : Pass) : Prop where
  confines : (o.reach doc).Confines doc p.doc
  sound : p.doc.Sound
  aliases : p.resolver.aliases = o.resolver.aliases
  rows : p.sources.Hands o.sources.rows

/-- What leaves document, aliases and sources alone does not matter. -/
theorem Confined.congr {q : Pass} (h : p.Confined o doc)
    (hdoc : q.doc = p.doc)
    (haliases : q.resolver.aliases = p.resolver.aliases)
    (hrows : q.sources.Hands o.sources.rows) : q.Confined o doc :=
  ⟨hdoc ▸ h.confines, hdoc ▸ h.sound, haliases.trans h.aliases, hrows⟩

theorem Confined.note (h : p.Confined o doc) (e : Event) :
    (p.note e).Confined o doc := h.congr rfl rfl h.rows

/-- A write to a slot within reach stays within reach. -/
theorem Confined.write (h : p.Confined o doc) {w : Write}
    (hw : o.Admits doc w.slot) : (p.write w).1.Confined o doc := by
  rcases write_cases w p with
    ⟨_, -, -, heq⟩ | ⟨-, ⟨_, -, heq⟩ | ⟨d, hput, heq⟩⟩
  · exact heq ▸ h.note _
  · exact heq ▸ h.note _
  · rw [heq]
    rw [Slot.put] at hput
    rw [Overrides.Admits] at hw
    split at hput
    case h_1 name hattr =>
        rw [hattr] at hw
        have hthere : (∃ b ∈ p.doc.attributes w.slot.node,
            b.name.qualified = name)
              ∨ (o.reach doc).addition w.slot.node name := by
          refine hw.2.imp_left ?_
          rintro ⟨a, ha, hq⟩
          obtain ⟨b, hb, hname⟩ := h.confines.exists_attribute ha
          exact ⟨b, hb, hname ▸ hq⟩
        refine ⟨h.confines.trans
          (Reach.confines_setAttribute hput hw.1 hthere), ?_, h.aliases,
          h.rows⟩
        obtain ⟨-, -, e, he, rfl⟩ := Document.setAttribute_eq_ok_iff.mp hput
        exact Document.sound_putElement h.sound he
    case h_2 hattr =>
        rw [hattr] at hw
        obtain ⟨hconfines, hsound⟩ :=
          Reach.confines_setText h.sound hput hw
        exact ⟨h.confines.trans hconfines, hsound, h.aliases, h.rows⟩

/-- A write to a slot that is admitted stays confined, whether it is counted or
refused. -/
theorem Confined.writeCounted (h : acc.1.Confined o doc) {w : Write}
    (hw : o.Admits doc w.slot) :
    (Pass.writeCounted w acc).1.Confined o doc := h.write hw

/-- Filling a row in stays within reach if its fields do. -/
theorem Confined.fillRow (h : acc.1.Confined o doc) (a : Assignment)
    (node : Nat) {row : Row}
    (hrow : ∀ field ∈ Table.names row, ∀ target,
      fieldElement doc node field = some target →
        (o.reach doc).text target) :
    (Pass.fillRow a node row acc).1.Confined o doc := by
  rw [fillRow_eq]
  refine List.foldlRecOn row _
    (motive := fun acc : Pass × Tally => acc.1.Confined o doc) h ?_
  rintro acc hacc ⟨field, value⟩ hmem
  have hway : fieldElement acc.1.doc node field
      = fieldElement doc node field :=
    descend_congr hacc.confines.outline.localName
      hacc.confines.outline.elementChildren ..
  rw [fillField, hway]
  split
  case h_1 target htarget =>
      exact hacc.writeCounted
        (hrow field (List.mem_map_of_mem hmem) target htarget)
  case h_2 => exact hacc

/-- A value that is written to a slot that is admitted stays confined, whatever
its text is. -/
theorem Confined.assignSlot (h : acc.1.Confined o doc) (a : Assignment)
    (k : Nat) {slot : Slot} (hslot : o.Admits doc slot) :
    (Pass.assignSlot a k acc slot).1.Confined o doc := by
  have hrows := h.rows.textFor? a.value k
  simp only [Pass.assignSlot, found]
  cases htext : Sources.textFor? a.value k acc.1.sources with
  | mk text sources =>
      rw [htext] at hrows
      have hnext : Confined o doc { acc.1 with sources := sources } :=
        h.congr rfl rfl hrows
      cases text with
      | none => exact hnext.note _
      | some text => exact hnext.write hslot

/-- The fields of a row stay confined as long as the elements that they lead to
may get another text. -/
theorem Confined.assignRow (h : acc.1.Confined o doc) (a : Assignment)
    (r : RowRef) (node k : Nat)
    (hrow : ∀ row ∈ r.rowsFrom o.sources.rows, ∀ field ∈ Table.names row,
      ∀ target, fieldElement doc node field = some target →
        (o.reach doc).text target) :
    (Pass.assignRow a r node k acc).1.Confined o doc := by
  obtain ⟨hrows, hgiven⟩ := h.rows.sharedRow r k
  simp only [Pass.assignRow, found]
  cases hshared : Sources.sharedRow r k acc.1.sources with
  | mk row sources =>
      rw [hshared] at hrows hgiven
      have hnext : Confined o doc { acc.1 with sources := sources } :=
        h.congr rfl rfl hrows
      cases row with
      | none => exact hnext.note _
      | some row =>
          exact @Confined.fillRow o doc
            ({ acc.1 with sources := sources }, _) hnext a node row
            (hrow row (hgiven row rfl))

-- ========================================================= assignments

/-- Matching names by way of the cache is matching them. -/
theorem matching_fst (pattern : String) (names : List String)
    (r : PathResolver) :
    (matching pattern names r).1 = names.filter (isMatch pattern) := by
  induction names generalizing r with
  | nil => rfl
  | cons name rest ih =>
      have hhit : (PathResolver.nameMatches pattern name r).1
          = isMatch pattern name := cachedMatch_answers pattern name r.cache
      show (if (PathResolver.nameMatches pattern name r).1
        then name :: (matching pattern rest _).1
        else (matching pattern rest _).1) = _
      rw [ih, hhit, List.filter_cons]

/-- The attributes that an assignment is for are within reach. -/
theorem Confined.attributeTargets (h : p.Confined o doc) {a : Assignment}
    {pattern : String} {node : Nat} (ha : o.Resolves doc a node)
    (hattr : a.address.attr = some pattern) :
    (Pass.attributeTargets pattern a.creates node p).2.Confined o doc
      ∧ ∀ name ∈ (Pass.attributeTargets pattern a.creates node p).1,
        o.Admits doc ⟨node, some name⟩ := by
  have hvalue : ∀ name, isMatch pattern name = true →
      (o.reach doc).value node name :=
    fun name hname => .inl ⟨a, pattern, ha, hattr, hname⟩
  have hthere : ∀ b ∈ p.doc.attributes node,
      (∃ a ∈ doc.attributes node, a.name.qualified = b.name.qualified)
        ∨ (o.reach doc).addition node b.name.qualified :=
    fun b hb => (h.confines.attribute_cases hb).imp_left
      fun ⟨a, ha, hname⟩ => ⟨a, ha, hname ▸ rfl⟩
  have haliases :=
    (attributeTargets_trace doc pattern a.creates node p).aliases
  rw [Pass.attributeTargets] at haliases ⊢
  split
  case isTrue hwild =>
      rw [if_pos hwild] at haliases
      refine ⟨h.congr rfl haliases h.rows, ?_⟩
      intro name hname
      have hname : name ∈ (matching pattern (attributeNames p.doc node)
        p.resolver).1 := hname
      rw [matching_fst, List.mem_filter, attributeNames] at hname
      obtain ⟨hmem, hmatch⟩ := hname
      obtain ⟨b, hb, rfl⟩ := List.mem_map.mp hmem
      exact ⟨hvalue _ hmatch, hthere b (List.mem_of_mem_filter hb)⟩
  case isFalse hwild =>
      have hself : isMatch pattern pattern = true := by
        rw [isMatch, if_neg hwild, beq_self_eq_true]
      split
      case isFalse => exact ⟨h, by simp⟩
      case isTrue hor =>
          refine ⟨h, fun name hname => ?_⟩
          obtain rfl := List.mem_singleton.mp hname
          refine ⟨hvalue _ hself, ?_⟩
          rcases (Bool.or_eq_true _ _).mp hor with hcreates | hhas
          · exact .inr (.inl ⟨a, ha, hattr, by simpa using hwild, hcreates⟩)
          · rw [Document.hasAttribute, Document.attribute?,
              Option.isSome_map] at hhas
            obtain ⟨b, hb⟩ := Option.isSome_iff_exists.mp hhas
            have hq : b.name.qualified = name := by
              simpa using List.find?_some hb
            exact hq ▸ hthere b (List.mem_of_find?_eq_some hb)

/-- At an element that the key of an assignment addresses, its slots are
admitted: its text, its attributes that the pattern matches, or one that is
added for it. -/
theorem Confined.assignElement (h : acc.1.Confined o doc)
    {a : Assignment} {node : Nat} (ha : o.Resolves doc a node) (k : Nat) :
    (Pass.assignElement a acc node k).1.Confined o doc := by
  have htext : a.address.attr = none → a.Supplies doc o.sources.rows node node →
      (Pass.assignSlot a k acc ⟨node, none⟩).1.Confined o doc :=
    fun hattr hsupplies => h.assignSlot a k ⟨a, node, ha, hattr, hsupplies⟩
  rw [Pass.assignElement]
  cases hattr : a.address.attr with
  | some pattern =>
      obtain ⟨htargets, hnames⟩ := h.attributeTargets ha hattr
      refine List.foldlRecOn _ _
        (motive := fun acc : Pass × Tally => acc.1.Confined o doc)
        htargets ?_
      intro acc hacc slot hslot
      obtain ⟨name, hname, rfl⟩ := List.mem_map.mp hslot
      exact hacc.assignSlot a k (hnames name hname)
  | none =>
      cases hvalue : a.value with
      | literal text =>
          exact htext hattr (by rw [Assignment.Supplies, hvalue])
      | generated spec =>
          exact htext hattr (by rw [Assignment.Supplies, hvalue])
      | templated r =>
          by_cases hfield : r.field = none
          · simp only [hfield, Option.isNone_none, ↓reduceIte]
            refine h.assignRow a r node k fun row hrow field hf target hd => ?_
            refine ⟨a, node, ha, hattr, ?_⟩
            rw [Assignment.Supplies, hvalue]
            simp only [hfield, ↓reduceIte]
            exact ⟨row, hrow, field, hf, hd⟩
          · have hsome : r.field.isNone = false := by
              rw [Bool.eq_false_iff, ne_eq, Option.isNone_iff_eq_none]
              exact hfield
            simp only [hsome, Bool.false_eq_true, ↓reduceIte]
            refine htext hattr ?_
            rw [Assignment.Supplies, hvalue]
            simp only [hfield, ↓reduceIte]

/-- What is told in the end is no change. -/
theorem Confined.conclude (h : acc.1.Confined o doc) (a : Assignment) :
    (concludeAssignment a acc).Confined o doc := by
  simp only [concludeAssignment]
  split <;> split
  · exact (h.note _).note _
  · exact h.note _
  · exact h.note _
  · exact h

/-- An assignment of the configuration stays within reach. -/
theorem Confined.assign (h : p.Confined o doc) {a : Assignment}
    (ha : a ∈ o.assignments) :
    (p.assign (.ofDocument doc) a).Confined o doc := by
  have hnodes : (p.resolve (.ofDocument doc) a.address).1
      = a.nodes doc o.resolver.aliases :=
    h.aliases ▸ resolve_answers_default _ _ _ p.resolver.cache
  have hresolved : (p.resolve (.ofDocument doc) a.address).2.Confined o doc :=
    h.congr rfl rfl h.rows
  by_cases hnil : a.nodes doc o.resolver.aliases = []
  · rw [assign_of_missing (hnodes.trans hnil)]
    exact hresolved.note _
  · rw [assign_of_found fun h => hnil (hnodes.symm.trans h), hnodes]
    refine Confined.conclude ?_ a
    refine List.foldlRecOn _ _
      (motive := fun acc : Pass × Tally => acc.1.Confined o doc)
      hresolved ?_
    intro acc hacc x hx
    exact hacc.assignElement ⟨ha, List.fst_mem_of_mem_zipIdx hx⟩ x.2

-- ========================================================== namespaces

/-- What is left to know of a pass when all assignments are through. -/
structure Settled (o : Overrides) (doc : Document) (p : Pass) : Prop where
  confines : (o.reach doc).Confines doc p.doc
  aliases : p.resolver.aliases = o.resolver.aliases

theorem Settled.note (h : p.Settled o doc) (e : Event) :
    (p.note e).Settled o doc := ⟨h.confines, h.aliases⟩

/-- A declaration is an attribute of the root. -/
theorem Settled.declare (h : p.Settled o doc) {name : QName}
    (hname : o.config.namespaces.Declares name.qualified) (uri : String) :
    (p.declare name uri).Settled o doc := by
  have hroot : p.doc.root = doc.root := h.confines.outline.root
  rw [Pass.declare]
  split
  case h_1 d hset =>
      refine ⟨h.confines.trans (Reach.confines_setAttribute hset ?_ ?_),
        h.aliases⟩
      · exact .inr ⟨hroot, hname⟩
      · exact .inr (.inr ⟨hroot, hname⟩)
  case h_2 => exact h.note _

/-- The pass when the declarations are made and the elements are still to
come. -/
def declared (p : Pass) (rules : NamespaceRules) : Pass :=
  rules.prefixes.foldl
    (fun p (name, uri) => p.declare (.declaring (some name)) uri)
    (match rules.defaultUri with
    | some uri => p.declare (.declaring none) uri
    | none => p)

/-- All declarations come first, then the rules for prefixes in order. -/
theorem applyNamespaces_eq (index : ElementIndex) (p : Pass)
    (rules : NamespaceRules) :
    p.applyNamespaces index rules
      = rules.elements.foldl (Pass.applyPrefix index) (p.declared rules) :=
  rfl

/-- The declarations stay within reach, since they are attributes of the root
that the configuration declares. -/
theorem Settled.declared (h : p.Settled o doc) :
    (p.declared o.config.namespaces).Settled o doc := by
  refine List.foldlRecOn _ _ (motive := fun p : Pass => p.Settled o doc) ?_
    fun p hp entry hentry =>
      hp.declare (.inr ⟨entry.1, List.mem_map_of_mem hentry, rfl⟩) _
  cases hdefault : o.config.namespaces.defaultUri with
  | none => exact h
  | some uri => exact h.declare (.inl ⟨by simp [hdefault], rfl⟩) uri

/-- A rule may give a prefix to an element that it resolves to. -/
theorem Settled.addPrefix {acc : Pass × Nat} (h : acc.1.Settled o doc)
    {rule : PrefixRule} (hrule : rule ∈ o.config.namespaces.elements)
    {node : Nat} (hnode : node ∈ rule.nodes doc o.resolver.aliases) :
    (Pass.addPrefix rule acc node).1.Settled o doc := by
  rw [Pass.addPrefix]
  split
  case h_1 d hd =>
      exact ⟨h.confines.trans
        (Reach.confines_rename hd rfl ⟨rule, hrule, hnode⟩), h.aliases⟩
  case h_2 => exact h.note _

/-- A rule looks its elements up in the document as it was. -/
theorem Settled.resolve (h : p.Settled o doc) (rule : PrefixRule) :
    (p.resolve (.ofDocument doc) rule.address).1
        = rule.nodes doc o.resolver.aliases
      ∧ (p.resolve (.ofDocument doc) rule.address).2.Settled o doc :=
  ⟨h.aliases ▸ resolve_answers_default _ _ _ p.resolver.cache,
    h.confines, h.aliases⟩

/-- A rule gives its prefix to one element after the other, and notes what
came of it. -/
theorem applyPrefix_notes (index : ElementIndex) (p : Pass)
    (rule : PrefixRule) :
    ∃ es, p.applyPrefix index rule =
      (let q := ((p.resolve index rule.address).1.foldl (addPrefix rule)
        ((p.resolve index rule.address).2, 0)).1
      { q with events := q.events ++ es }) := by
  simp only [applyPrefix]
  split
  case h_1 hnone =>
      rw [hnone]
      exact ⟨_, rfl⟩
  case h_2 =>
      split
      · exact ⟨_, rfl⟩
      · exact ⟨[], by rw [List.append_nil]⟩

/-- A rule gives prefixes to the elements that it resolves to. -/
theorem Settled.applyPrefix (h : p.Settled o doc) {rule : PrefixRule}
    (hrule : rule ∈ o.config.namespaces.elements) :
    (p.applyPrefix (.ofDocument doc) rule).Settled o doc := by
  obtain ⟨hnodes, hresolved⟩ := h.resolve rule
  obtain ⟨es, heq⟩ := applyPrefix_notes (.ofDocument doc) p rule
  have hprefixed : ((rule.nodes doc o.resolver.aliases).foldl
      (Pass.addPrefix rule)
      ((p.resolve (.ofDocument doc) rule.address).2, 0)).1.Settled o doc :=
    List.foldlRecOn _ _
      (motive := fun acc : Pass × Nat => acc.1.Settled o doc) hresolved
      fun acc hacc node hnode => hacc.addPrefix hrule hnode
  rw [heq, hnodes]
  exact ⟨hprefixed.confines, hprefixed.aliases⟩

/-- The rules for prefixes stay within reach, since they change elements that
they address. -/
theorem Settled.applyNamespaces (h : p.Settled o doc) :
    (p.applyNamespaces (.ofDocument doc) o.config.namespaces).Settled o
      doc := by
  rw [applyNamespaces_eq]
  exact List.foldlRecOn _ _ (motive := fun p : Pass => p.Settled o doc)
    h.declared fun p hp rule hrule => hp.applyPrefix hrule

end Pass

-- =========================================================== the whole

/-- Whether an assignment does what an entry of a configuration asks for.
A value adds attributes if there is no wildcard in its address, an entry
for attributes if its selector does. -/
def Config.HasEntry (c : Config) (a : Assignment) : Prop :=
  (∃ e ∈ c.values ++ c.patterns, a.address = e.address ∧ a.value = e.value
      ∧ a.creates = !e.address.isPattern)
    ∨ ∃ e ∈ c.attributes, e.selector.address? = .ok a.address
      ∧ a.value = e.value ∧ a.creates = e.selector.creates

namespace Overrides

/-- All assignments come from entries. -/
theorem hasEntry_of_mem_assignments {o : Overrides} {a : Assignment}
    (ha : a ∈ o.assignments) : o.config.HasEntry a := by
  have hphase : ∀ phase entries, (∀ e ∈ entries,
      e ∈ o.config.values ++ o.config.patterns) →
      Task.assign a ∈ phaseTasks phase entries → o.config.HasEntry a := by
    intro phase entries hentries hmem
    obtain ⟨e, he, hassign⟩ := List.mem_map.mp hmem
    cases hassign
    exact .inl ⟨e, hentries e (List.mem_mergeSort.mp he), rfl, rfl, rfl⟩
  have hvalues : ∀ p, ∀ e ∈ o.config.values.filter p,
      e ∈ o.config.values ++ o.config.patterns :=
    fun _ e he => List.mem_append_left _ (List.mem_of_mem_filter he)
  have hpatterns : ∀ p, ∀ e ∈ o.config.patterns.filter p,
      e ∈ o.config.values ++ o.config.patterns :=
    fun _ e he => List.mem_append_right _ (List.mem_of_mem_filter he)
  obtain ⟨task, htask, hassign⟩ := List.mem_filterMap.mp ha
  cases task with
  | malformed key why => cases hassign
  | assign b =>
      cases hassign
      rcases List.mem_append.mp htask with htask | htask
      · rcases List.mem_append.mp htask with htask | htask
        · rcases List.mem_append.mp htask with htask | htask
          · exact hphase _ _ (hvalues _) htask
          · exact hphase _ _ (hpatterns _) htask
        · refine hphase _ _ (fun e he => ?_) htask
          exact (List.mem_append.mp he).elim (hvalues _ e) (hpatterns _ e)
      · obtain ⟨e, he, hassign⟩ := List.mem_map.mp htask
        rw [AttributeEntry.task] at hassign
        split at hassign
        case h_1 address haddress =>
            cases hassign
            exact .inr ⟨e, he, haddress, rfl, rfl⟩
        case h_2 => cases hassign

/-- All assignments stay within reach. -/
theorem settled_assigned {s : String} {doc : Document}
    (hdoc : Document.parse s = some doc) (o : Overrides) :
    (o.assigned doc).Settled o doc := by
  have hassigned : (o.assigned doc).Confined o doc := by
    refine List.foldlRecOn _ _ (motive := fun p : Pass => p.Confined o doc)
      ⟨.refl _ doc, Document.sound_of_parse hdoc, rfl,
        o.sources.hands_beginPass⟩ ?_
    intro p hp task htask
    cases task with
    | assign a =>
        exact hp.assign (List.mem_filterMap.mpr ⟨_, htask, rfl⟩)
    | malformed key why => exact hp.note _
  exact ⟨hassigned.confines, hassigned.aliases⟩

/-- A pass over a document that was read changes only what the
configuration addresses. -/
theorem confines_apply {s : String} {doc : Document}
    (hdoc : Document.parse s = some doc) (o : Overrides) :
    (o.reach doc).Confines doc (o.apply doc).2.1 := by
  rw [(apply_after_assigned o doc).2]
  exact (o.settled_assigned hdoc).applyNamespaces.confines

/-- What a pass over a document changes, whatever the configuration, and
whatever was drawn before. The outline of the document stays. Attributes
stay in their order, and new ones come behind them. A text changes only if
an entry without an attribute resolves to its element, or gives a row to an
element from which a field of the row leads there. The value of an
attribute changes only if an entry that names or matches it resolves to its
element; it is added only by one that names it and adds attributes; but for
the declarations on the root. Prefixes and namespaces change only by a rule
for them. -/
theorem apply_changes_addressed {s : String} {doc : Document}
    (hdoc : Document.parse s = some doc) (o : Overrides) :
    let out := (o.apply doc).2.1
    let declared := fun (i : Nat) (name : String) =>
      i = doc.root ∧ o.config.namespaces.Declares name
    doc.SameOutline out
    ∧ (∀ i, ∃ added, (out.attributes i).map (·.name)
          = (doc.attributes i).map (·.name) ++ added
        ∧ ∀ n ∈ added, declared i n.qualified
          ∨ ∃ a, o.Resolves doc a i ∧ a.address.attr = some n.qualified
            ∧ isWild n.qualified = false ∧ a.creates = true)
    ∧ (∀ i, out.text? i ≠ doc.text? i →
        ∃ a node, o.Resolves doc a node ∧ a.address.attr = none
          ∧ a.Supplies doc o.sources.rows node i)
    ∧ (∀ i (j : Nat) before after,
        (doc.attributes i)[j]? = some before →
        (out.attributes i)[j]? = some after →
        after.value ≠ before.value → declared i before.name.qualified
          ∨ ∃ a pattern, o.Resolves doc a i ∧ a.address.attr = some pattern
            ∧ isMatch pattern before.name.qualified = true)
    ∧ (∀ i, out.name? i ≠ doc.name? i ∨ out.uri? i ≠ doc.uri? i →
        ∃ rule ∈ o.config.namespaces.elements,
          i ∈ rule.nodes doc o.resolver.aliases)
    ∧ ∀ a ∈ o.assignments, o.config.HasEntry a := by
  have h := o.confines_apply hdoc
  refine ⟨h.outline, fun i => ?_, h.texts, fun i j a b ha hb hne => ?_,
    h.prefixes, fun a ha => hasEntry_of_mem_assignments ha⟩
  · obtain ⟨added, hnames, hadded⟩ := h.names i
    exact ⟨added, hnames, fun n hn => (hadded n hn).symm⟩
  · exact (h.values i j a b ha hb hne).symm

/-- A configuration with one value. -/
def singleLiteral (address : Address) : Overrides :=
  { (default : Overrides) with
    config := { (default : Config) with
      values := [⟨"b", address, .literal "x"⟩] } }

/-- A value for one element leaves the text of another one alone. -/
theorem apply_changes_addressed_other_text :
    ∃ doc address, Document.parse "<r>t<b/></r>" = some doc
      ∧ Address.parse "b" = .ok address
      ∧ (let out := ((singleLiteral address).apply doc).2.1
        out.text? 2 = some "x" ∧ out.text? 0 = doc.text? 0) := by
  have hplan : ∀ a, (singleLiteral a).config.plan
      = [.assign ⟨.values, "b", a, .literal "x", !a.isPattern⟩] := by
    intro a
    have hpatterns : (default : Config).patterns = [] := rfl
    have hattributes : (default : Config).attributes = [] := rfl
    simp [singleLiteral, Config.plan, phaseTasks, bySpecificity,
      ValueEntry.assignment, ValueSpec.isTemplate, hpatterns, hattributes]
  have hdoc : (Document.parse "<r>t<b/></r>").isSome = true := by
    decide +kernel
  have hread : (Address.parse "b").toOption.isSome = true := by
    decide +kernel
  have hnodes :
      (((ElementIndex.ofDocument
          ((Document.parse "<r>t<b/></r>").get hdoc)).resolve
          (default : Overrides).resolver.aliases
          ((Address.parse "b").toOption.get hread)).run default).1 = [2] := by
    decide +kernel +revert
  have htext : ((singleLiteral ((Address.parse "b").toOption.get hread)).apply
      ((Document.parse "<r>t<b/></r>").get hdoc)).2.1.text? 2 = some "x" := by
    simp only [(apply_after_assigned _ _).2, assigned, hplan]
    clear hplan hnodes
    decide +kernel +revert
  have haddress := toOption_eq_some_iff.mp (Option.some_get hread).symm
  refine ⟨_, _, (Option.some_get hdoc).symm, haddress, htext, ?_⟩
  obtain ⟨-, -, htexts, -⟩ := apply_changes_addressed
    (Option.some_get hdoc).symm
    (singleLiteral ((Address.parse "b").toOption.get hread))
  by_contra hne
  obtain ⟨a, node, ⟨ha, hnode⟩, -, hsupplies⟩ := htexts 0 hne
  simp only [assignments, hplan, List.filterMap_cons, Task.assignment?,
    List.filterMap_nil, List.mem_singleton] at ha
  subst ha
  have hnode : node ∈ [2] := hnodes ▸ hnode
  rw [List.mem_singleton.mp hnode] at hsupplies
  cases hsupplies

end Overrides

end Overlay
