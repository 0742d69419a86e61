/-
The way up from a node.

# Blocks

In a document that was read, a node and everything below it have numbers
without a gap: the *block* of the node. The blocks of its children lie
inside, one behind the other (`HasBlock.children`), and every node has a
block (`hasBlock_of_lt`).

# Links

So parents and children know each other: a document that was read is
*linked* (`linked_of_parse`). In a linked document the way up from a node
is the node and the way up from its parent, and whatever holds of the root
and is handed down to children holds of all attached nodes
(`Linked.attached_induct`). Changes that give no old node a new parent
leave the way up from attached nodes as it was (`Linked.lineage_of_parents`).
-/
import Overlay.Proofs.Xml.Edits

namespace Overlay.Xml.Document

variable {doc doc' : Document} {i p : Nat}

-- ============================================================== blocks

/-- Whether the node and everything below it are numbered in a row. -/
def HasBlock (doc : Document) (id : Nat) : Prop :=
  ∃ parent, (doc.tree id).nodes id parent <+: doc.nodes.toList.drop id

/-- The first number behind the block of a node. -/
def blockEnd (doc : Document) (id : Nat) : Nat := id + (doc.tree id).count

theorem lt_blockEnd (doc : Document) (id : Nat) : id < doc.blockEnd id := by
  have := (doc.tree id).count_pos
  unfold blockEnd
  omega

/-- What is known of a node where its block is found. -/
theorem of_block {t : Tree} {id : Nat} {parent : Option Nat}
    (h : t.nodes id parent <+: doc.nodes.toList.drop id) :
    doc.HasBlock id ∧ doc.parent? id = parent
      ∧ doc.blockEnd id = id + t.count := by
  have htree := tree_of_block t parent h
  have hcons : ∃ children rest,
      t.nodes id parent = ⟨t.kind, parent, children⟩ :: rest := by
    cases t <;> exact ⟨_, _, rfl⟩
  obtain ⟨children, rest, hnodes⟩ := hcons
  refine ⟨⟨parent, htree.symm ▸ h⟩, ?_, by rw [blockEnd, htree]⟩
  rw [hnodes] at h
  exact (kind?_of_block h).2.2

/-- Blocks of trees that were placed one after the other lie one behind
the other. -/
theorem blocks_of_numbers (ts : List Tree) {n : Nat} {parent : Option Nat}
    (h : nodesOfAll n parent ts <+: doc.nodes.toList.drop n) :
    (∀ c ∈ numbers n ts, n ≤ c ∧ doc.HasBlock c ∧ doc.parent? c = parent
        ∧ doc.blockEnd c ≤ n + countAll ts)
      ∧ (numbers n ts).Pairwise fun c d => doc.blockEnd c ≤ d := by
  induction ts generalizing n with
  | nil => simp [numbers]
  | cons t rest ih =>
      rw [nodesOfAll] at h
      obtain ⟨hmem, hpairs⟩ := ih (block_behind h)
      obtain ⟨hblock, hparent, hend⟩ :=
        of_block ((List.prefix_append _ _).trans h)
      rw [numbers, countAll, List.forall_mem_cons, List.pairwise_cons]
      refine ⟨⟨⟨Nat.le_refl n, hblock, hparent, by omega⟩, ?_⟩, ?_, hpairs⟩
      · intro c hc
        obtain ⟨hle, hblock, hparent, hend⟩ := hmem c hc
        exact ⟨by omega, hblock, hparent, by omega⟩
      · intro c hc
        rw [hend]
        exact (hmem c hc).1

/-- The children of a node lie inside its block, one behind the other. -/
theorem HasBlock.children {id : Nat} (h : doc.HasBlock id) :
    (∀ c ∈ doc.children id, id < c ∧ doc.HasBlock c
        ∧ doc.parent? c = some id ∧ doc.blockEnd c ≤ doc.blockEnd id)
      ∧ (doc.children id).Pairwise fun c d => doc.blockEnd c ≤ d := by
  obtain ⟨parent, h⟩ := h
  have hend : doc.blockEnd id = id + (doc.tree id).count := rfl
  cases ht : doc.tree id with
  | element e ts =>
      rw [ht, Tree.nodes] at h
      obtain ⟨-, hchildren, -⟩ := kind?_of_block h
      have hbelow : nodesOfAll (id + 1) (some id) ts
          <+: doc.nodes.toList.drop (id + 1) := by
        obtain ⟨tail, htail⟩ := h
        exact ⟨tail, by rw [← List.tail_drop, ← htail]; rfl⟩
      obtain ⟨hmem, hpairs⟩ := blocks_of_numbers ts hbelow
      rw [ht, Tree.count] at hend
      rw [hchildren]
      refine ⟨fun c hc => ?_, hpairs⟩
      obtain ⟨hle, hblock, hparent, hle'⟩ := hmem c hc
      exact ⟨by omega, hblock, hparent, by omega⟩
  | text s =>
      rw [ht, Tree.nodes] at h
      simp [(kind?_of_block h).2.1]
  | comment s =>
      rw [ht, Tree.nodes] at h
      simp [(kind?_of_block h).2.1]
  | instruction t d =>
      rw [ht, Tree.nodes] at h
      simp [(kind?_of_block h).2.1]

/-- The root of a document that was read has a block, and no parent. -/
theorem hasBlock_root {s : String} (h : parse s = some doc) :
    doc.HasBlock doc.root ∧ doc.parent? doc.root = none := by
  obtain ⟨c, -, rfl⟩ := parse_spelled h
  have hlen := length_nodesOfAll c.prolog 0 none
  have hblock : c.root.nodes (ofContent c).root none
      <+: (ofContent c).nodes.toList.drop (ofContent c).root := by
    rw [ofContent_eq, nodesOfAll_append, nodesOfAll, Nat.zero_add,
      List.toList_toArray, List.drop_left' hlen]
    exact List.prefix_append _ _
  obtain ⟨hhas, hparent, -⟩ := of_block hblock
  exact ⟨hhas, hparent⟩

/-- The blocks of the children of an element stand behind it. -/
theorem children_of_block {e : Element} {children : List Tree} {n : Nat}
    {parent : Option Nat}
    (h : (Tree.element e children).nodes n parent
      <+: doc.nodes.toList.drop n) :
    doc.children n = numbers (n + 1) children
      ∧ nodesOfAll (n + 1) (some n) children
        <+: doc.nodes.toList.drop (n + 1) := by
  rw [Tree.nodes] at h
  refine ⟨(kind?_of_block h).2.1, ?_⟩
  obtain ⟨tail, htail⟩ := h
  exact ⟨tail, by rw [← List.tail_drop, ← htail]; rfl⟩

mutual

/-- Every node in the block of a tree has a block of its own, and those
below the top are children of their parents. -/
theorem block_inside (t : Tree) {n : Nat} {parent : Option Nat}
    (h : t.nodes n parent <+: doc.nodes.toList.drop n) (hle : n ≤ i)
    (hlt : i < n + t.count) :
    doc.HasBlock i
      ∧ (i = n ∨ ∃ p, doc.parent? i = some p ∧ i ∈ doc.children p) := by
  by_cases hi : i = n
  · exact hi.symm ▸ ⟨(of_block h).1, .inl rfl⟩
  cases t with
  | element e children =>
      obtain ⟨hchildren, hbelow⟩ := children_of_block h
      rw [Tree.count] at hlt
      obtain ⟨hblock, hi | hi⟩ :=
        blocks_inside children hbelow (by omega) (by omega)
      · obtain ⟨-, -, hparent, -⟩ := (blocks_of_numbers children hbelow).1 i hi
        exact ⟨hblock, .inr ⟨n, hparent, hchildren ▸ hi⟩⟩
      · exact ⟨hblock, .inr hi⟩
  | text s => rw [Tree.count] at hlt; omega
  | comment s => rw [Tree.count] at hlt; omega
  | instruction t d => rw [Tree.count] at hlt; omega

/-- The same for the blocks of several trees. -/
theorem blocks_inside (ts : List Tree) {n : Nat} {parent : Option Nat}
    (h : nodesOfAll n parent ts <+: doc.nodes.toList.drop n) (hle : n ≤ i)
    (hlt : i < n + countAll ts) :
    doc.HasBlock i ∧ (i ∈ numbers n ts
      ∨ ∃ p, doc.parent? i = some p ∧ i ∈ doc.children p) := by
  cases ts with
  | nil => rw [countAll] at hlt; omega
  | cons t rest =>
      rw [nodesOfAll] at h
      rw [countAll] at hlt
      rw [numbers, List.mem_cons]
      by_cases hi : i < n + t.count
      · have := block_inside t ((List.prefix_append _ _).trans h) hle hi
        exact ⟨this.1, this.2.imp_left .inl⟩
      · have := blocks_inside rest (block_behind h) (by omega) (by omega)
        exact ⟨this.1, this.2.imp_left .inr⟩

end

/-- Every node of a document that was read has a block. It is a child of
its parent, or has none. -/
theorem hasBlock_of_lt {s : String} (h : parse s = some doc)
    (hi : i < doc.size) : doc.HasBlock i ∧ (doc.parent? i = none
      ∨ ∃ p, doc.parent? i = some p ∧ i ∈ doc.children p) := by
  obtain ⟨c, -, rfl⟩ := parse_spelled h
  have hall : nodesOfAll 0 none (c.prolog ++ c.root :: c.epilog)
      <+: (ofContent c).nodes.toList.drop 0 := by
    rw [ofContent_eq, List.drop_zero]
  have hlt : i < 0 + countAll (c.prolog ++ c.root :: c.epilog) := by
    rw [← length_nodesOfAll _ 0 none, Nat.zero_add]
    rw [ofContent_eq] at hi
    exact hi
  refine (blocks_inside _ hall (Nat.zero_le i) hlt).imp_right
    (.imp_left fun hmem => ?_)
  exact ((blocks_of_numbers _ hall).1 i hmem).2.2.1

/-- What stands beside the root has no parent. -/
theorem parent?_outside {s : String} (h : parse s = some doc)
    (hi : i ∈ doc.prolog ∨ i ∈ doc.epilog) : doc.parent? i = none := by
  obtain ⟨c, -, rfl⟩ := parse_spelled h
  have hall : nodesOfAll 0 none (c.prolog ++ c.root :: c.epilog)
      <+: (ofContent c).nodes.toList.drop 0 := by
    rw [ofContent_eq, List.drop_zero]
  have hsplit : numbers 0 (c.prolog ++ c.root :: c.epilog)
      = numbers 0 c.prolog
        ++ countAll c.prolog :: numbers (countAll c.prolog + c.root.count)
          c.epilog := by
    rw [numbers_append, numbers, Nat.zero_add]
  refine ((blocks_of_numbers _ hall).1 i ?_).2.2.1
  rw [ofContent_eq] at hi
  rw [hsplit, List.mem_append, List.mem_cons]
  exact hi.imp_right .inr

/-- Only elements have children. -/
theorem HasBlock.isElement {id : Nat} (h : doc.HasBlock id)
    (hc : doc.children id ≠ []) : doc.isElement id = true := by
  obtain ⟨parent, h⟩ := h
  cases ht : doc.tree id with
  | element e ts =>
      rw [ht, Tree.nodes] at h
      rw [Document.isElement, element?, (kind?_of_block h).1]
      rfl
  | text s =>
      rw [ht, Tree.nodes] at h
      exact absurd (kind?_of_block h).2.1 hc
  | comment s =>
      rw [ht, Tree.nodes] at h
      exact absurd (kind?_of_block h).2.1 hc
  | instruction t d =>
      rw [ht, Tree.nodes] at h
      exact absurd (kind?_of_block h).2.1 hc

-- =============================================================== links

/-- A document in which parents and children know each other. Parents are
elements, and the root has none. -/
structure Linked (doc : Document) : Prop where
  root : doc.parent? doc.root = none
  child : ∀ i, ∀ c ∈ doc.children i, doc.parent? c = some i ∧ i < c
  parent : ∀ i p, doc.parent? i = some p →
    i ∈ doc.children p ∧ doc.isElement p = true
  nodup : ∀ i, (doc.children i).Nodup

theorem lt_of_parent? (h : doc.parent? i = some p) : i < doc.size := by
  obtain ⟨n, hn, -⟩ := Option.bind_eq_some_iff.mp h
  exact (Array.getElem?_eq_some_iff.mp hn).1

theorem lt_of_mem_children {c : Nat} (h : c ∈ doc.children i) :
    i < doc.size := by
  by_contra hi
  rw [children, Array.getElem?_eq_none (by rw [size] at hi; omega)] at h
  cases h

/-- A document that was read is linked. -/
theorem linked_of_parse {s : String} (h : parse s = some doc) :
    doc.Linked := by
  refine ⟨(hasBlock_root h).2, fun i c hc => ?_, fun i p hp => ?_,
    fun i => ?_⟩
  · have hblock := (hasBlock_of_lt h (lt_of_mem_children hc)).1
    obtain ⟨hlt, -, hparent, -⟩ := hblock.children.1 c hc
    exact ⟨hparent, hlt⟩
  · rcases (hasBlock_of_lt h (lt_of_parent? hp)).2 with hno | ⟨q, hq, hmem⟩
    · rw [hno] at hp
      cases hp
    · obtain rfl := Option.some.inj (hq.symm.trans hp)
      have hblock := (hasBlock_of_lt h (lt_of_mem_children hmem)).1
      exact ⟨hmem, hblock.isElement (List.ne_nil_of_mem hmem)⟩
  · by_cases hi : i < doc.size
    · refine (hasBlock_of_lt h hi).1.children.2.imp fun {c d} hle => ?_
      have := doc.lt_blockEnd c
      omega
    · rw [children, Array.getElem?_eq_none (by rw [size] at hi; omega)]
      exact List.nodup_nil

namespace Linked

variable (h : doc.Linked)
include h

theorem lt (hp : doc.parent? i = some p) : p < i :=
  (h.child p i (h.parent i p hp).1).2

theorem mem_children_iff {c : Nat} :
    c ∈ doc.children i ↔ doc.parent? c = some i :=
  ⟨fun hc => (h.child i c hc).1, fun hp => (h.parent c i hp).1⟩

theorem parent?_of_mem_elementChildren {c : Nat}
    (hc : c ∈ doc.elementChildren i) : doc.parent? c = some i :=
  (h.child i c (List.mem_of_mem_filter hc)).1

/-- An element is a child of one other element. -/
theorem container_unique {c : Nat} (hi : c ∈ doc.elementChildren i)
    (hp : c ∈ doc.elementChildren p) : i = p := by
  have hparent := h.parent?_of_mem_elementChildren hi
  rw [h.parent?_of_mem_elementChildren hp] at hparent
  exact (Option.some.inj hparent).symm

/-- The way up from a node is the node and the way up from its parent. -/
theorem lineage_of_parent (hp : doc.parent? i = some p) :
    doc.lineage i = i :: doc.lineage p := by
  rw [lineage, hp]
  exact dif_pos (h.lt hp)

theorem isAttached_of_parent (hp : doc.parent? i = some p) :
    doc.isAttached i = true ↔ doc.isAttached p = true := by
  have hne : doc.root ≠ i := by
    rintro rfl
    rw [h.root] at hp
    cases hp
  rw [isAttached, h.lineage_of_parent hp, List.contains_cons, isAttached,
    beq_false_of_ne hne, Bool.false_or]

end Linked

/-- A node without a parent is the whole way up. -/
theorem lineage_of_none (hp : doc.parent? i = none) :
    doc.lineage i = [i] := by
  rw [lineage, hp]

/-- The way up from a node begins with the node. -/
theorem exists_lineage (doc : Document) (i : Nat) :
    ∃ up, doc.lineage i = i :: up := by
  rw [lineage]
  split
  case h_1 p hp =>
      split
      · exact ⟨_, rfl⟩
      · exact ⟨[], rfl⟩
  case h_2 => exact ⟨[], rfl⟩

theorem mem_lineage_self (doc : Document) (i : Nat) :
    i ∈ doc.lineage i := by
  obtain ⟨up, hup⟩ := doc.exists_lineage i
  exact hup ▸ List.mem_cons_self ..

theorem isAttached_of_none (hp : doc.parent? i = none) :
    doc.isAttached i = true ↔ i = doc.root := by
  rw [isAttached, lineage_of_none hp, List.contains_iff_mem,
    List.mem_singleton, eq_comm]

namespace Linked

theorem isAttached_root (h : doc.Linked) : doc.isAttached doc.root = true :=
  (isAttached_of_none h.root).mpr rfl

/-- What holds of the root, and is handed down to children, holds of all
attached nodes. -/
theorem attached_induct (h : doc.Linked) {P : Nat → Prop}
    (root : P doc.root)
    (child : ∀ i p, doc.parent? i = some p → doc.isAttached p = true →
      P p → P i) (hi : doc.isAttached i = true) : P i := by
  induction i using Nat.strong_induction_on with
  | _ i ih =>
      cases hp : doc.parent? i with
      | none => exact (isAttached_of_none hp).mp hi ▸ root
      | some p =>
          have hattached := (h.isAttached_of_parent hp).mp hi
          exact child i p hp hattached (ih p (h.lt hp) hattached)

/-- On the way up from an attached node everything is attached, and there
are elements behind the node. -/
theorem of_mem_lineage (h : doc.Linked) (hi : doc.isAttached i = true) :
    ∀ a ∈ doc.lineage i,
      doc.isAttached a = true ∧ (a = i ∨ doc.isElement a = true) := by
  refine h.attached_induct
    (P := fun i => ∀ a ∈ doc.lineage i,
      doc.isAttached a = true ∧ (a = i ∨ doc.isElement a = true))
    ?_ (fun i p hp hattached ih => ?_) hi
  · rw [lineage_of_none h.root]
    intro a ha
    rw [List.mem_singleton.mp ha]
    exact ⟨h.isAttached_root, .inl rfl⟩
  · rw [h.lineage_of_parent hp, List.forall_mem_cons]
    refine ⟨⟨(h.isAttached_of_parent hp).mpr hattached, .inl rfl⟩,
      fun a ha => ⟨(ih a ha).1, .inr ?_⟩⟩
    rcases (ih a ha).2 with rfl | hel
    · exact (h.parent i a hp).2
    · exact hel

/-- Where old nodes get no new parents, the way up from an old node that
is attached stays as it is. -/
theorem lineage_of_parents (h : doc.Linked) (h' : doc'.Linked)
    (hroot : doc'.root = doc.root)
    (hparents : ∀ i < doc.size, ∀ p, doc'.parent? i = some p →
      doc.parent? i = some p) (hi : i < doc.size)
    (hattached : doc'.isAttached i = true) :
    doc.isAttached i = true ∧ doc'.lineage i = doc.lineage i := by
  induction i using Nat.strong_induction_on with
  | _ i ih =>
      cases hp : doc'.parent? i with
      | none =>
          obtain rfl := ((isAttached_of_none hp).mp hattached).trans hroot
          rw [lineage_of_none hp, lineage_of_none h.root]
          exact ⟨h.isAttached_root, rfl⟩
      | some p =>
          have hold := hparents i hi p hp
          have hlt := h.lt hold
          obtain ⟨hatt, hsame⟩ := ih p hlt (by omega)
            ((h'.isAttached_of_parent hp).mp hattached)
          exact ⟨(h.isAttached_of_parent hold).mpr hatt, by
            rw [h'.lineage_of_parent hp, hsame, h.lineage_of_parent hold]⟩

end Linked

end Overlay.Xml.Document
