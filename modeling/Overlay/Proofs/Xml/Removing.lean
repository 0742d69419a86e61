/-
Documents without some of their nodes.

Taking a node out of the tree leaves it, and everything below it, in the
table. All that changes is that its parent does not list it any more, and
that it has no parent. So a document from which nodes were taken, one by
one, is known from the nodes that are *gone* (`Without`), and in a linked
document so is what is still attached: the nodes with nothing gone on
their way up (`Without.isAttached_iff`).
-/
import Overlay.Proofs.Xml.Lineages

namespace Overlay.Xml.Document

/-- A document without some nodes that were taken out of the tree, one by
one. They stay in the table, with whatever is below them. -/
structure Without (doc : Document) (gone : List Nat) (doc' : Document) :
    Prop where
  root : doc'.root = doc.root
  prolog : doc'.prolog = doc.prolog
  epilog : doc'.epilog = doc.epilog
  kind? : ∀ i, doc'.kind? i = doc.kind? i
  parent? : ∀ i, doc'.parent? i = if i ∈ gone then none else doc.parent? i
  children : ∀ i, doc'.children i = (doc.children i).filter (· ∉ gone)

namespace Without

variable {doc doc' : Document} {gone : List Nat} {i p : Nat}

theorem refl (doc : Document) : doc.Without [] doc :=
  ⟨rfl, rfl, rfl, fun _ => rfl, fun _ => by simp, fun _ => by simp⟩

theorem element? (h : doc.Without gone doc') (i : Nat) :
    doc'.element? i = doc.element? i := by
  rw [Document.element?, Document.element?, h.kind?]

theorem isElement (h : doc.Without gone doc') (i : Nat) :
    doc'.isElement i = doc.isElement i := by
  rw [Document.isElement, Document.isElement, h.element?]

theorem name? (h : doc.Without gone doc') (i : Nat) :
    doc'.name? i = doc.name? i := by
  rw [Document.name?, Document.name?, h.element?]

theorem localName (h : doc.Without gone doc') (i : Nat) :
    doc'.localName i = doc.localName i := by
  rw [Document.localName, Document.localName, h.name?]

/-- What is gone is no child of any element. -/
theorem elementChildren (h : doc.Without gone doc') (i : Nat) :
    doc'.elementChildren i = (doc.elementChildren i).filter (· ∉ gone) := by
  have hel : doc'.isElement = doc.isElement := funext h.isElement
  rw [Document.elementChildren, Document.elementChildren, h.children, hel,
    List.filter_comm]

/-- A node that still has a parent has its old one. -/
theorem parent?_eq_some_iff (h : doc.Without gone doc') :
    doc'.parent? i = some p ↔ i ∉ gone ∧ doc.parent? i = some p := by
  rw [h.parent?]
  by_cases hi : i ∈ gone <;> simp [hi]

/-- Links stay in order when nodes are taken out: those that are left have the
parents that they had. -/
theorem linked (h : doc.Without gone doc') (hl : doc.Linked) :
    doc'.Linked := by
  refine ⟨?_, fun i c hc => ?_, fun i p hp => ?_, fun i => ?_⟩
  · rw [h.root, h.parent?, hl.root, ite_self]
  · rw [h.children, List.mem_filter, decide_eq_true_iff] at hc
    obtain ⟨hparent, hlt⟩ := hl.child i c hc.1
    exact ⟨h.parent?_eq_some_iff.mpr ⟨hc.2, hparent⟩, hlt⟩
  · obtain ⟨hi, hparent⟩ := h.parent?_eq_some_iff.mp hp
    obtain ⟨hmem, hel⟩ := hl.parent i p hparent
    rw [h.children, h.isElement]
    exact ⟨List.mem_filter.mpr ⟨hmem, by simpa using hi⟩, hel⟩
  · rw [h.children]
    exact (hl.nodup i).filter _

theorem lt_size_iff (h : doc.Without gone doc') :
    i < doc'.size ↔ i < doc.size := by
  have hkind : ∀ d : Document, i < d.size ↔ (d.kind? i).isSome = true := by
    intro d
    simp [Document.kind?, Document.size]
  rw [hkind, hkind, h.kind?]

/-- And the document stays sound. -/
theorem sound (h : doc.Without gone doc') (hs : doc.Sound) :
    doc'.Sound := by
  refine ⟨?_, fun i c hc => ?_⟩
  · rw [h.root, h.isElement]
    exact hs.root
  · rw [h.children] at hc
    exact h.lt_size_iff.mpr (hs.children i c (List.mem_of_mem_filter hc))

/-- What is attached was attached, and nothing on the way up is gone. -/
theorem isAttached_iff (h : doc.Without gone doc') (hl : doc.Linked)
    (hroot : doc.root ∉ gone) :
    doc'.isAttached i = true
      ↔ doc.isAttached i = true ∧ ∀ a ∈ doc.lineage i, a ∉ gone := by
  constructor
  · refine fun hi => (h.linked hl).attached_induct
      (P := fun i => doc.isAttached i = true ∧ ∀ a ∈ doc.lineage i, a ∉ gone)
      ?_ (fun i p hp _ ih => ?_) hi
    · rw [h.root, lineage_of_none hl.root]
      exact ⟨hl.isAttached_root, by simpa using hroot⟩
    · obtain ⟨hgone, hparent⟩ := h.parent?_eq_some_iff.mp hp
      rw [hl.isAttached_of_parent hparent, hl.lineage_of_parent hparent,
        List.forall_mem_cons]
      exact ⟨ih.1, hgone, ih.2⟩
  · refine fun ⟨hi, hline⟩ => hl.attached_induct
      (P := fun i => (∀ a ∈ doc.lineage i, a ∉ gone) →
        doc'.isAttached i = true)
      (fun _ => ?_) (fun i p hp _ ih hline => ?_) hi hline
    · rw [← h.root]
      exact (h.linked hl).isAttached_root
    · rw [hl.lineage_of_parent hp, List.forall_mem_cons] at hline
      have hparent := h.parent?_eq_some_iff.mpr ⟨hline.1, hp⟩
      exact ((h.linked hl).isAttached_of_parent hparent).mpr (ih hline.2)

/-- The way up from an attached node is the old one. -/
theorem lineage (h : doc.Without gone doc') (hl : doc.Linked)
    (hi : doc'.isAttached i = true) : doc'.lineage i = doc.lineage i := by
  refine (h.linked hl).attached_induct
    (P := fun i => doc'.lineage i = doc.lineage i)
    ?_ (fun i p hp _ ih => ?_) hi
  · rw [lineage_of_none (h.linked hl).root, h.root, lineage_of_none hl.root]
  · have hparent := (h.parent?_eq_some_iff.mp hp).2
    rw [(h.linked hl).lineage_of_parent hp, hl.lineage_of_parent hparent, ih]

/-- Nodes that are taken out in two steps are taken out together. -/
theorem trans {doc'' : Document} {gone' : List Nat}
    (h : doc.Without gone doc') (h' : doc'.Without gone' doc'') :
    doc.Without (gone' ++ gone) doc'' where
  root := h'.root.trans h.root
  prolog := h'.prolog.trans h.prolog
  epilog := h'.epilog.trans h.epilog
  kind? i := (h'.kind? i).trans (h.kind? i)
  parent? i := by
    rw [h'.parent?, h.parent?]
    by_cases hi : i ∈ gone' <;> simp [hi]
  children i := by
    rw [h'.children, h.children, List.filter_filter]
    refine List.filter_congr fun c _ => ?_
    simp

end Without

/-- A list that a node is not in. -/
theorem filter_not_mem_singleton {id : Nat} {xs : List Nat} (h : id ∉ xs) :
    xs.filter (· ∉ [id]) = xs := by
  refine List.filter_eq_self.mpr fun x hx => ?_
  have hne : x ≠ id := fun heq => h (heq ▸ hx)
  simpa using hne

/-- Taking a node out. -/
theorem without_detach {doc out : Document} {id : Nat} (hl : doc.Linked)
    (hout : doc.detach id = .ok out) : doc.Without [id] out := by
  -- only the parent of the node lists it
  have hlisted : ∀ i, doc.parent? id ≠ some i →
      (doc.children i).filter (· ∉ [id]) = doc.children i := by
    intro i hi
    exact filter_not_mem_singleton fun hmem => hi (hl.child i id hmem).1
  unfold detach at hout
  split at hout
  case isTrue => cases hout
  case isFalse =>
      split at hout
      case h_2 hnone =>
          cases hout
          refine ⟨rfl, rfl, rfl, fun _ => rfl, fun i => ?_, fun i => ?_⟩
          · by_cases hi : i = id
            · rw [hi, hnone, if_pos (List.mem_singleton_self id)]
            · rw [if_neg (by simpa using hi)]
          · rw [hlisted i (by rw [hnone]; simp)]
      case h_1 p hp =>
          cases hout
          have horphan : (doc.orphan id).children p = doc.children p :=
            children_modify fun _ => rfl
          refine ⟨rfl, rfl, rfl, fun i => ?_, fun i => ?_, fun i => ?_⟩
          · refine (kind?_modify ?_).trans (kind?_modify ?_) <;>
              exact fun _ => rfl
          · have hparent : (Document.modify (doc.orphan id) p fun n =>
                { n with children := n.children.filter (· != id) }).parent? i
                = (doc.orphan id).parent? i := by
              refine parent?_modify ?_
              exact fun _ => rfl
            rw [hparent, parent?_orphan]
            simp only [List.mem_singleton]
          · by_cases hi : i = p
            · rw [hi, ← horphan, children, getElem?_modify, if_pos rfl,
                children]
              cases (doc.orphan id).nodes[p]? with
              | none => rfl
              | some n =>
                  refine List.filter_congr fun c _ => ?_
                  simp [bne, beq_eq_decide]
            · rw [hlisted i fun h => hi (Option.some.inj (h.symm.trans hp))]
              exact (children_modify_of_ne hi).trans
                (children_modify fun _ => rfl)

-- ========================================================= many nodes

/-- The order in which nodes were taken out does not show. -/
theorem Without.congr {doc doc' : Document} {gone gone' : List Nat}
    (h : doc.Without gone doc') (hsame : ∀ x, x ∈ gone ↔ x ∈ gone') :
    doc.Without gone' doc' where
  root := h.root
  prolog := h.prolog
  epilog := h.epilog
  kind? := h.kind?
  parent? i := by
    rw [h.parent?]
    simp only [hsame]
  children i := by
    rw [h.children]
    simp only [hsame]

/-- The document with nodes taken out of the tree, one after the other. -/
def detachAll (doc : Document) (ids : List Nat) : Document :=
  ids.foldl (fun d id => (d.detach id).toOption.getD d) doc

theorem detachAll_append (doc : Document) (xs ys : List Nat) :
    doc.detachAll (xs ++ ys) = (doc.detachAll xs).detachAll ys :=
  List.foldl_append

/-- Every node but the root can be taken out. -/
theorem detach_eq_ok {doc : Document} {id : Nat} (h : id ≠ doc.root) :
    doc.detach id = .ok (doc.detachAll [id]) := by
  have hout : ∃ out, doc.detach id = .ok out := by
    rw [detach, if_neg (by simpa using h)]
    cases doc.parent? id <;> exact ⟨_, rfl⟩
  obtain ⟨out, hout⟩ := hout
  rw [detachAll, List.foldl_cons, hout]
  rfl

/-- Any number of nodes but the root can be taken out, one by one. The
induction is on the list from its end, as each node is taken out of what the
others have left. -/
theorem without_detachAll {doc : Document} (hl : doc.Linked)
    {ids : List Nat} (hids : doc.root ∉ ids) :
    doc.Without ids (doc.detachAll ids) := by
  induction ids generalizing doc with
  | nil => exact .refl doc
  | cons id rest ih =>
      obtain ⟨hne, hrest⟩ := not_or.mp (List.mem_cons.not.mp hids)
      have hfirst := without_detach hl (detach_eq_ok (Ne.symm hne))
      have hothers := ih (hfirst.linked hl) (by rwa [hfirst.root])
      refine (hfirst.trans hothers).congr fun x => ?_
      simp [or_comm]

-- =========================================================== same tree

/-- Documents with the same tree: the same nodes are attached, and those
and the ones beside the root have the same parents, and the same children
in the same order. -/
structure SameTree (doc doc' : Document) : Prop where
  root : doc'.root = doc.root
  prolog : doc'.prolog = doc.prolog
  epilog : doc'.epilog = doc.epilog
  isAttached : ∀ i, doc'.isAttached i = doc.isAttached i
  nodes : ∀ i, doc.isAttached i = true ∨ i ∈ doc.prolog ∨ i ∈ doc.epilog →
    doc'.nodes[i]? = doc.nodes[i]?

/-- A node is what it is, its parent and its children. -/
theorem node_ext {doc doc' : Document} {i : Nat}
    (hkind : doc'.kind? i = doc.kind? i)
    (hparent : doc'.parent? i = doc.parent? i)
    (hchildren : doc'.children i = doc.children i) :
    doc'.nodes[i]? = doc.nodes[i]? := by
  rw [kind?, kind?] at hkind
  rw [parent?, parent?] at hparent
  rw [children, children] at hchildren
  cases hn : doc.nodes[i]? with
  | none =>
      rw [hn, Option.map_none, Option.map_eq_none_iff] at hkind
      exact hkind
  | some n =>
      rw [hn] at hkind hparent hchildren
      obtain ⟨n', hn', hkind⟩ := Option.map_eq_some_iff.mp hkind
      rw [hn'] at hparent hchildren ⊢
      obtain ⟨kind, parent, children⟩ := n
      obtain ⟨kind', parent', children'⟩ := n'
      simp only [Option.bind_some, Option.map_some, Option.getD_some] at *
      rw [hkind, hparent, hchildren]

end Overlay.Xml.Document
