/-
Documents as forests.

# What edits cannot break

Child lists and parents are kept apart in the table of nodes, and an edit
changes both. Whatever edits a document went through, a node is in the
list of exactly the node that it has for a parent, and parents are older
than their children (`Linked`). A refused edit changes nothing and one that
is carried out keeps this (`Edit.follows`), so it holds along any run of
edits (`edited_keeps`), for a document that was read and for one that was
made of a single element (`IsNew`).

# Where going up and going down end

Since parents are older, going from a node to its parent and on to the parent
of that one ends, after as many steps as the lineage has members
(`Linked.climb`), and at the root if the node is attached
(`Linked.getLast?_lineage`). Children are younger and have numbers in the
table, so going down ends too: a walk that keeps the elements it has yet to
visit on a stack lists the descendants and comes to an empty stack
(`walk_descendants`).

# Document order

`Before` says which of two nodes comes first in a document, in terms of
child lists alone: the one that the other one is below, or else the one
that is at or below the earlier of two siblings. In a linked document it is
asymmetric (`Linked.before_asymm`), which is why a list that is ordered by
it has no repeats, and why there is no second one with the same members.
-/
import Overlay.Proofs.Xml.Redeclaring

namespace Overlay.Xml

-- =============================================================== kinds

/-- Whether two nodes are of one kind. An element may have got another name
or other attributes; anything else has to be the same. -/
def NodeKind.Like (k k' : NodeKind) : Prop :=
  k' = k ∨ k.element?.isSome = true ∧ k'.element?.isSome = true

theorem NodeKind.Like.refl (k : NodeKind) : k.Like k := .inl rfl

theorem NodeKind.Like.trans {k k' k'' : NodeKind} (h : k.Like k')
    (h' : k'.Like k'') : k.Like k'' := by
  rcases h with rfl | ⟨hk, hk'⟩
  · exact h'
  · rcases h' with rfl | ⟨-, hk''⟩
    · exact .inr ⟨hk, hk'⟩
    · exact .inr ⟨hk, hk''⟩

namespace Document

variable {doc doc' : Document} {i p c : Nat}

/-- Whether the nodes of a document are still there in another one, and of
the kind that they were. -/
def KeepsKinds (doc doc' : Document) : Prop :=
  ∀ i k, doc.kind? i = some k → ∃ k', doc'.kind? i = some k' ∧ k.Like k'

theorem KeepsKinds.refl (doc : Document) : doc.KeepsKinds doc :=
  fun _ k h => ⟨k, h, .refl k⟩

theorem KeepsKinds.trans {doc'' : Document} (h : doc.KeepsKinds doc')
    (h' : doc'.KeepsKinds doc'') : doc.KeepsKinds doc'' := by
  intro i k hk
  obtain ⟨k', hk', hlike⟩ := h i k hk
  obtain ⟨k'', hk'', hlike'⟩ := h' i k' hk'
  exact ⟨k'', hk'', hlike.trans hlike'⟩

/-- Another element in place of one leaves all nodes of the kind that they
were. -/
theorem keepsKinds_putElement {id : Nat} {e e' : Element}
    (he : doc.element? id = some e) :
    doc.KeepsKinds (doc.putElement id e') := by
  have hkind := element?_eq_some_iff.mp he
  intro i k hk
  rw [kind?_putElement (lt_of_kind? hkind)]
  by_cases hi : i = id
  · rw [hi, hkind] at hk
    cases hk
    exact ⟨_, if_pos hi, .inr ⟨rfl, rfl⟩⟩
  · exact ⟨k, (if_neg hi).trans hk, .refl k⟩

/-- An edit leaves all nodes of the kind that they are. -/
theorem keepsKinds_apply {e : Edit} (hl : doc.Linked)
    (h : e.apply doc = .ok doc') : doc.KeepsKinds doc' := by
  cases e with
  | setText id value =>
      obtain ⟨-, -, rfl⟩ := setText_eq_ok_iff.mp h
      intro i k hk
      have hold : ¬ (i = doc.size ∧ value ≠ "") := fun hnew =>
        Nat.ne_of_lt (lt_of_kind? hk) hnew.1
      exact ⟨k, by rw [kind?_retext, if_neg hold, hk], .refl k⟩
  | setAttribute id name value =>
      obtain ⟨-, -, e, he, rfl⟩ := setAttribute_eq_ok_iff.mp h
      exact keepsKinds_putElement he
  | rename id name =>
      obtain ⟨-, -, e, he, rfl⟩ := rename_eq_ok_iff.mp h
      exact keepsKinds_putElement he
  | detach id =>
      intro i k hk
      exact ⟨k, ((without_detach hl h).kind? i).trans hk, .refl k⟩

-- ======================================================= runs of edits

/-- A document as it is to begin with: read from a text, or made of a
single element. -/
def IsNew (doc : Document) : Prop :=
  (∃ text, parse text = some doc) ∨ ∃ name, ofRoot name = .ok doc

/-- A single element is linked, and sound. -/
theorem linked_ofRoot {name : QName} (h : ofRoot name = .ok doc) :
    doc.Linked ∧ doc.Sound := by
  unfold ofRoot at h
  obtain ⟨-, -, h⟩ := ok_of_bind h
  have hdoc := (Except.ok.inj h).symm
  have hchildren : ∀ i, doc.children i = [] := by
    rintro (_ | i) <;> rw [hdoc] <;> rfl
  have hparent : ∀ i, doc.parent? i = none := by
    rintro (_ | i) <;> rw [hdoc] <;> rfl
  have hel : doc.isElement doc.root = true := by
    rw [hdoc]
    rfl
  exact ⟨⟨hparent _, by simp [hchildren], by simp [hparent],
    by simp [hchildren]⟩, hel, by simp [hchildren]⟩

theorem IsNew.linked (h : doc.IsNew) : doc.Linked ∧ doc.Sound := by
  rcases h with ⟨text, h⟩ | ⟨name, h⟩
  · exact ⟨linked_of_parse h, sound_of_parse h⟩
  · exact linked_ofRoot h

/-- What every edit keeps that is carried out, a run of edits keeps, those
that are refused included. -/
theorem edited_keeps {P : Document → Prop}
    (step : ∀ (e : Edit) (d d' : Document), d.Linked → P d →
      e.apply d = .ok d' → P d')
    (hl : doc.Linked) (hs : doc.Sound) (h : P doc) (edits : List Edit) :
    (doc.edited edits).Linked ∧ (doc.edited edits).Sound
      ∧ P (doc.edited edits) := by
  induction edits generalizing doc with
  | nil => exact ⟨hl, hs, h⟩
  | cons e rest ih =>
      rw [edited, List.foldl_cons, Edit.carryOut]
      cases he : e.apply doc with
      | error why => exact ih hl hs h
      | ok out =>
          have hfollows := e.follows hl hs he
          exact ih hfollows.linked hfollows.sound (step e doc out hl h he)

theorem IsNew.linked_edited (h : doc.IsNew) (edits : List Edit) :
    (doc.edited edits).Linked ∧ (doc.edited edits).Sound := by
  obtain ⟨hl, hs⟩ := h.linked
  obtain ⟨hl, hs, -⟩ := edited_keeps (P := fun _ => True)
    (fun _ _ _ _ _ _ => trivial) hl hs trivial edits
  exact ⟨hl, hs⟩

-- ============================================================ going up

/-- Going up step by step visits the lineage, and ends behind it. -/
theorem Linked.climb (h : doc.Linked) (i n : Nat) :
    (fun up : Option Nat => up.bind doc.parent?)^[n] (some i)
      = (doc.lineage i)[n]? := by
  induction n generalizing i with
  | zero =>
      obtain ⟨up, hup⟩ := doc.exists_lineage i
      rw [hup]
      rfl
  | succ n ih =>
      rw [Function.iterate_succ_apply, Option.bind_some]
      cases hp : doc.parent? i with
      | none =>
          rw [lineage_of_none hp, Function.iterate_fixed rfl]
          rfl
      | some p => rw [ih, h.lineage_of_parent hp, List.getElem?_cons_succ]

/-- The way up from an attached node ends at the root, and that from
another node does not get there. -/
theorem Linked.getLast?_lineage (h : doc.Linked) :
    doc.isAttached i = true
      ↔ (doc.lineage i).getLast? = some doc.root := by
  constructor
  · refine h.attached_induct
      (P := fun i => (doc.lineage i).getLast? = some doc.root)
      ?_ fun i p hp _ ih => ?_
    · rw [lineage_of_none h.root]
      rfl
    · rw [h.lineage_of_parent hp, List.getLast?_cons, ih]
      rfl
  · intro hlast
    exact List.contains_iff_mem.mpr (List.mem_of_getLast? hlast)

-- ========================================================== going down

/-- Whether a node is at or below another one: it is reached by going from
nodes to their children. -/
def Reaches (doc : Document) : Nat → Nat → Prop :=
  Relation.ReflTransGen fun p c => c ∈ doc.children p

theorem Linked.le_of_reaches (h : doc.Linked) {x y : Nat}
    (hxy : doc.Reaches x y) : x ≤ y := by
  induction hxy with
  | refl => exact Nat.le_refl x
  | tail _ hc ih => exact Nat.le_of_lt (ih.trans_lt (h.child _ _ hc).2)

/-- A node is at or below everything on its way up. -/
theorem Linked.reaches_of_mem_lineage (h : doc.Linked) {a : Nat}
    (ha : a ∈ doc.lineage i) : doc.Reaches a i := by
  induction i using Nat.strong_induction_on with
  | _ i ih =>
      cases hp : doc.parent? i with
      | none =>
          rw [lineage_of_none hp] at ha
          exact List.mem_singleton.mp ha ▸ .refl
      | some p =>
          rw [h.lineage_of_parent hp] at ha
          rcases List.mem_cons.mp ha with rfl | ha
          · exact .refl
          · exact (ih p (h.lt hp) ha).tail (h.parent i p hp).1

/-- Attached nodes are those that are reached from the root. -/
theorem Linked.isAttached_iff_reaches (h : doc.Linked) :
    doc.isAttached i = true ↔ doc.Reaches doc.root i := by
  constructor
  · refine h.attached_induct .refl fun i p hp _ ih => ?_
    exact ih.tail (h.parent i p hp).1
  · intro hi
    induction hi with
    | refl => exact h.isAttached_root
    | tail _ hc ih =>
        exact (h.isAttached_of_parent (h.child _ _ hc).1).mpr ih

/-- The descendants of a node are its element children, each followed by
its own descendants. -/
theorem Linked.descendants_eq (h : doc.Linked) (hs : doc.Sound) (i : Nat) :
    doc.descendants i
      = (doc.elementChildren i).flatMap fun c => c :: doc.descendants c := by
  rw [descendants]
  refine List.flatMap_congr fun c hc => ?_
  have hmem := List.mem_of_mem_filter hc
  exact dif_pos ⟨(h.child i c hmem).2, hs.children i c hmem⟩

/-- What holds of a node if it holds of its children, holds of all nodes. -/
theorem Linked.down_induct (h : doc.Linked) (hs : doc.Sound)
    {P : Nat → Prop} (step : ∀ i, (∀ c ∈ doc.children i, P c) → P i)
    (i : Nat) : P i := by
  induction hn : doc.size - i using Nat.strong_induction_on generalizing i with
  | _ n ih =>
      refine step i fun c hc => ih _ ?_ c rfl
      have hlt := (h.child i c hc).2
      have hsize := hs.children i c hc
      omega

/-- What holds of a node if it holds of its element children, holds of all
nodes. -/
theorem Linked.children_induct (h : doc.Linked) (hs : doc.Sound)
    {P : Nat → Prop} (step : ∀ i, (∀ c ∈ doc.elementChildren i, P c) → P i)
    (i : Nat) : P i :=
  h.down_induct hs (fun i ih => step i fun c hc =>
    ih c (List.mem_of_mem_filter hc)) i

/-- Descendants are the elements that are reached, the node itself left
out. -/
theorem Linked.mem_descendants_iff (h : doc.Linked) (hs : doc.Sound) :
    c ∈ doc.descendants i
      ↔ doc.isElement c = true ∧ doc.Reaches i c ∧ c ≠ i := by
  refine h.children_induct hs (P := fun i => ∀ c, c ∈ doc.descendants i
    ↔ doc.isElement c = true ∧ doc.Reaches i c ∧ c ≠ i) (fun i ih c => ?_) i c
  simp only [h.descendants_eq hs i, List.mem_flatMap, List.mem_cons]
  constructor
  · rintro ⟨d, hd, hc⟩
    obtain ⟨hmem, hel⟩ := List.mem_filter.mp hd
    have hlt := (h.child i d hmem).2
    have hreach : doc.isElement c = true ∧ doc.Reaches d c := by
      rcases hc with rfl | hc
      · exact ⟨hel, .refl⟩
      · exact ⟨((ih d hd c).mp hc).1, ((ih d hd c).mp hc).2.1⟩
    have hle := h.le_of_reaches hreach.2
    exact ⟨hreach.1, .head hmem hreach.2, by omega⟩
  · rintro ⟨hel, hreach, hne⟩
    obtain rfl | ⟨d, hmem, hreach⟩ := hreach.cases_head
    · exact absurd rfl hne
    -- what has something below it is an element
    have hd : doc.isElement d = true := by
      obtain rfl | ⟨b, hb, -⟩ := hreach.cases_head
      · exact hel
      · exact (h.parent b d (h.child d b hb).1).2
    have hchild := List.mem_filter.mpr ⟨hmem, hd⟩
    by_cases hcd : c = d
    · exact ⟨d, hchild, .inl hcd⟩
    · exact ⟨d, hchild, .inr ((ih d hchild c).mpr ⟨hel, hreach, hcd⟩)⟩

-- ==================================================== walks with a stack

/-- One turn of a walk: the element on top of the stack is listed, and its
element children take its place, the first one on top. -/
def walkOn (doc : Document) : List Nat × List Nat → List Nat × List Nat
  | (listed, []) => (listed, [])
  | (listed, i :: stack) => (listed ++ [i], doc.elementChildren i ++ stack)

/-- A walk gets through with what is on top of the stack before it touches
what is below. -/
theorem Linked.walk_through (h : doc.Linked) (hs : doc.Sound)
    (ns listed stack : List Nat) :
    doc.walkOn^[(ns.flatMap fun i => i :: doc.descendants i).length]
        (listed, ns ++ stack)
      = (listed ++ ns.flatMap fun i => i :: doc.descendants i, stack) := by
  -- several nodes are gone through if each of them is
  have hlist : ∀ ns : List Nat,
      (∀ i ∈ ns, ∀ listed stack, doc.walkOn^[(doc.descendants i).length + 1]
        (listed, i :: stack) = (listed ++ i :: doc.descendants i, stack)) →
      ∀ listed stack,
        doc.walkOn^[(ns.flatMap fun i => i :: doc.descendants i).length]
            (listed, ns ++ stack)
          = (listed ++ ns.flatMap fun i => i :: doc.descendants i,
              stack) := by
    intro ns
    induction ns with
    | nil => simp
    | cons n rest ih =>
        intro hall listed stack
        obtain ⟨hn, hrest⟩ := List.forall_mem_cons.mp hall
        rw [List.flatMap_cons, List.length_append, List.length_cons,
          Nat.add_comm, Function.iterate_add_apply, List.cons_append,
          hn, ih hrest, List.append_assoc]
  have hone : ∀ i listed stack, doc.walkOn^[(doc.descendants i).length + 1]
      (listed, i :: stack) = (listed ++ i :: doc.descendants i, stack) := by
    refine h.children_induct hs fun i ih listed stack => ?_
    rw [Function.iterate_succ_apply, walkOn, h.descendants_eq hs i,
      hlist _ ih, List.append_assoc, List.singleton_append]
  exact hlist ns (fun i _ => hone i) listed stack

/-- A walk that begins with the element children of a node lists its
descendants, and ends with an empty stack. -/
theorem Linked.walk_descendants (h : doc.Linked) (hs : doc.Sound)
    (i : Nat) :
    doc.walkOn^[(doc.descendants i).length] ([], doc.elementChildren i)
      = (doc.descendants i, []) := by
  have hwalk := h.walk_through hs (doc.elementChildren i) [] []
  rw [← h.descendants_eq hs i, List.append_nil, List.nil_append] at hwalk
  exact hwalk

-- ====================================================== document order

/-- Whether one node comes before another in a document. -/
inductive Before (doc : Document) (x y : Nat) : Prop
  /-- A node comes before what is below it. -/
  | above : doc.Reaches x y → x ≠ y → Before doc x y
  /-- Whatever is at or below a node comes before what is at or below a
  later sibling of it. -/
  | beside {p a b : Nat} : [a, b].Sublist (doc.children p) →
      doc.Reaches a x → doc.Reaches b y → Before doc x y

theorem mem_of_pair_sublist {α : Type} {a b : α} {xs : List α}
    (h : [a, b].Sublist xs) : a ∈ xs ∧ b ∈ xs := by
  simpa using h.subset

/-- A list without repeats has two members in one order only. -/
theorem not_sublist_swap {α : Type} {a b : α} {xs : List α}
    (h : xs.Nodup) (hab : [a, b].Sublist xs) : ¬ [b, a].Sublist xs := by
  induction xs with
  | nil => cases hab
  | cons x xs ih =>
      obtain ⟨hx, hxs⟩ := List.nodup_cons.mp h
      intro hba
      rcases List.sublist_cons_iff.mp hab with hin | ⟨_, hr, hb⟩ <;>
        rcases List.sublist_cons_iff.mp hba with hin' | ⟨_, hr', ha⟩
      · exact ih hxs hin hin'
      · cases hr'
        exact hx (mem_of_pair_sublist hin).2
      · cases hr
        exact hx (mem_of_pair_sublist hin').2
      · cases hr
        cases hr'
        exact hx (hb.subset (List.mem_singleton_self _))

namespace Linked

variable (h : doc.Linked)
include h

/-- Of two nodes with a common descendant, one is below the other. -/
theorem reaches_total {x y z : Nat} (hx : doc.Reaches x z)
    (hy : doc.Reaches y z) : doc.Reaches x y ∨ doc.Reaches y x := by
  induction hx with
  | refl => exact .inr hy
  | @tail u v hxu hv ih =>
      obtain rfl | ⟨w, hyw, hw⟩ := hy.cases_tail
      · exact .inl (hxu.tail hv)
      · -- both ways come by the parent
        have hsame : some w = some u :=
          (h.child w v hw).1.symm.trans (h.child u v hv).1
        cases hsame
        exact ih hyw

/-- Nothing is below two siblings. -/
theorem sibling_eq {a b x : Nat} (ha : a ∈ doc.children p)
    (hb : b ∈ doc.children p) (hax : doc.Reaches a x)
    (hbx : doc.Reaches b x) : a = b := by
  have hbelow : ∀ {a b : Nat}, a ∈ doc.children p → b ∈ doc.children p →
      doc.Reaches a b → a = b := by
    intro a b ha hb hab
    obtain rfl | ⟨q, haq, hq⟩ := hab.cases_tail
    · rfl
    · have hsame : some q = some p :=
        (h.child q b hq).1.symm.trans (h.child p b hb).1
      cases hsame
      have hle := h.le_of_reaches haq
      have hlt := (h.child p a ha).2
      omega
  rcases h.reaches_total hax hbx with hab | hba
  · exact hbelow ha hb hab
  · exact (hbelow hb ha hba).symm

theorem before_irrefl (x : Nat) : ¬ doc.Before x x := by
  rintro (⟨-, hne⟩ | @⟨p, a, b, hab, hax, hbx⟩)
  · exact hne rfl
  · obtain ⟨ha, hb⟩ := mem_of_pair_sublist hab
    obtain rfl := h.sibling_eq ha hb hax hbx
    exact not_sublist_swap (h.nodup p) hab hab

/-- Siblings that stand above two nodes, with a node above both of these,
are children of it or above it. -/
theorem reaches_parent_of_beside {p q a b x y : Nat}
    (hab : [a, b].Sublist (doc.children p)) (hax : doc.Reaches a x)
    (hby : doc.Reaches b y) (hqx : doc.Reaches q x)
    (hqy : doc.Reaches q y) : doc.Reaches q p := by
  obtain ⟨ha, hb⟩ := mem_of_pair_sublist hab
  rcases h.reaches_total (hax.head ha) hqx with hpq | hqp
  · obtain rfl | ⟨c, hc, hcq⟩ := hpq.cases_head
    · exact .refl
    · -- the child of `p` towards `q` would be both siblings
      obtain rfl := h.sibling_eq hc ha (hcq.trans hqx) hax
      obtain rfl := h.sibling_eq hc hb (hcq.trans hqy) hby
      exact absurd hab (not_sublist_swap (h.nodup p) hab)
  · exact hqp

/-- Of two nodes one comes first. -/
theorem before_asymm {x y : Nat} (hxy : doc.Before x y) :
    ¬ doc.Before y x := by
  rintro (⟨hyx, hne⟩ | @⟨q, c, d, hcd, hcy, hdx⟩)
  · cases hxy with
    | above hxy =>
        have := h.le_of_reaches hxy
        have := h.le_of_reaches hyx
        omega
    | beside hab hax hby =>
        exact h.before_irrefl x (.beside hab hax (hby.trans hyx))
  · cases hxy with
    | above hxy =>
        exact h.before_irrefl y (.beside hcd hcy (hdx.trans hxy))
    | @beside p a b hab hax hby =>
        obtain ⟨ha, hb⟩ := mem_of_pair_sublist hab
        obtain ⟨hc, hd⟩ := mem_of_pair_sublist hcd
        -- both pairs are children of one node, in opposite order
        have hle := h.le_of_reaches (h.reaches_parent_of_beside hab hax hby
          (hdx.head hd) (hcy.head hc))
        have hle' := h.le_of_reaches (h.reaches_parent_of_beside hcd hcy hdx
          (hby.head hb) (hax.head ha))
        obtain rfl : p = q := by omega
        obtain rfl := h.sibling_eq ha hd hax hdx
        obtain rfl := h.sibling_eq hb hc hby hcy
        exact not_sublist_swap (h.nodup p) hab hcd

end Linked

/-- Descendants are listed in document order. -/
theorem Linked.descendants_before (h : doc.Linked) (hs : doc.Sound)
    (i : Nat) : (doc.descendants i).Pairwise doc.Before := by
  -- what is listed for a child is at or below it
  have hreach : ∀ c, ∀ x ∈ c :: doc.descendants c, doc.Reaches c x := by
    intro c x hx
    rcases List.mem_cons.mp hx with rfl | hx
    · exact .refl
    · exact ((h.mem_descendants_iff hs).mp hx).2.1
  refine h.children_induct hs
    (P := fun i => (doc.descendants i).Pairwise doc.Before)
    (fun i ih => ?_) i
  rw [h.descendants_eq hs i, List.pairwise_flatMap]
  refine ⟨fun c hc => List.pairwise_cons.mpr ⟨fun x hx => ?_, ih c hc⟩,
    List.pairwise_iff_forall_sublist.mpr fun {a b} hab x hx y hy => ?_⟩
  · obtain ⟨-, hcx, hne⟩ := (h.mem_descendants_iff hs).mp hx
    exact .above hcx hne.symm
  · exact .beside (hab.trans List.filter_sublist) (hreach a x hx)
      (hreach b y hy)

/-- The elements of a document are those that are attached, in document
order. -/
theorem Linked.elements_before (h : doc.Linked) (hs : doc.Sound) :
    (∀ i, i ∈ doc.elements
        ↔ doc.isElement i = true ∧ doc.isAttached i = true)
      ∧ doc.elements.Pairwise doc.Before := by
  have hmem := fun i => h.mem_descendants_iff hs (i := doc.root) (c := i)
  refine ⟨fun i => ?_, List.pairwise_cons.mpr
    ⟨fun i hi => ?_, h.descendants_before hs doc.root⟩⟩
  · rw [elements, List.mem_cons, hmem, h.isAttached_iff_reaches]
    constructor
    · rintro (rfl | ⟨hel, hreach, -⟩)
      · exact ⟨hs.root, .refl⟩
      · exact ⟨hel, hreach⟩
    · rintro ⟨hel, hreach⟩
      by_cases hi : i = doc.root
      · exact .inl hi
      · exact .inr ⟨hel, hreach, hi⟩
  · obtain ⟨-, hreach, hne⟩ := (hmem i).mp hi
    exact .above hreach hne.symm

-- =========================================================== any edits

/-- However a document is edited, its nodes form a forest. A node is a
child of its parent and of no other node, once, and younger than its
parent; so going up ends, and so does a walk down, with the descendants
listed. The root stays on top. Nodes keep their numbers and kinds. What is
attached is what is reached from the root, and the elements among it are
listed once each in document order. -/
theorem forest_of_edits (h : doc.IsNew) (before after : List Edit) :
    let old := doc.edited before
    let out := old.edited after
    (∀ p c, c ∈ out.children p ↔ out.parent? c = some p)
      ∧ (∀ p, (out.children p).Nodup)
      ∧ (∀ p c, out.parent? c = some p → p < c)
      ∧ (∀ i n, (fun up : Option Nat => up.bind out.parent?)^[n] (some i)
          = (out.lineage i)[n]?)
      ∧ (∀ i, out.walkOn^[(out.descendants i).length]
          ([], out.elementChildren i) = (out.descendants i, []))
      ∧ out.parent? out.root = none
      ∧ old.KeepsKinds out
      ∧ (∀ i, out.isAttached i = true ↔ out.Reaches out.root i)
      ∧ (∀ i, i ∈ out.elements
          ↔ out.isElement i = true ∧ out.isAttached i = true)
      ∧ out.elements.Nodup
      ∧ out.elements.Pairwise out.Before
      ∧ ∀ x y, out.Before x y → ¬ out.Before y x := by
  intro old out
  obtain ⟨hl, hs⟩ := h.linked
  obtain ⟨hlold, hsold, -⟩ :=
    edited_keeps (P := fun _ => True) (fun _ _ _ _ _ _ => trivial) hl hs
      trivial before
  obtain ⟨hlout, hsout, hkinds⟩ :=
    edited_keeps (P := old.KeepsKinds)
      (fun e d d' hd hkeeps he => hkeeps.trans (keepsKinds_apply hd he))
      hlold hsold (.refl old) after
  obtain ⟨hmem, hbefore⟩ := hlout.elements_before hsout
  have hnodup : out.elements.Nodup := by
    refine hbefore.imp fun {x y} hxy => ?_
    rintro rfl
    exact hlout.before_irrefl x hxy
  exact ⟨fun _ _ => hlout.mem_children_iff, hlout.nodup,
    fun _ _ hp => hlout.lt hp, hlout.climb, hlout.walk_descendants hsout,
    hlout.root, hkinds, fun _ => hlout.isAttached_iff_reaches, hmem, hnodup,
    hbefore, fun _ _ => hlout.before_asymm⟩

/-- A text is replaced, and again below an element that was taken out: the
texts `1` and `7` have left the tree with whatever is below `b`. -/
theorem forest_of_edits_detached :
    ∃ doc, parse "<a>t<b><c/>s</b><d/></a>" = some doc ∧ doc.IsNew
      ∧ (let old := doc.edited [.setText 0 "u", .detach 2]
        let out := old.edited [.setText 2 "v", .detach 0, .setText 0 ""]
        old.children 0 = [6, 5] ∧ out.children 0 = [5]
          ∧ out.children 2 = [7, 3] ∧ out.elements = [0, 5]
          ∧ old.KeepsKinds out ∧ out.elements.Pairwise out.Before
          ∧ ¬ out.Reaches out.root 3) := by
  have hsome : (parse "<a>t<b><c/>s</b><d/></a>").isSome = true := by
    decide +kernel
  have hout : let doc := (parse "<a>t<b><c/>s</b><d/></a>").get hsome
      let old := doc.edited [.setText 0 "u", .detach 2]
      let out := old.edited [.setText 2 "v", .detach 0, .setText 0 ""]
      old.children 0 = [6, 5] ∧ out.children 0 = [5]
        ∧ out.children 2 = [7, 3] ∧ out.elements = [0, 5]
        ∧ out.isAttached 3 = false := by
    decide +kernel +revert
  obtain ⟨hold, hroot, hgone, helements, hthree⟩ := hout
  have hnew : IsNew ((parse "<a>t<b><c/>s</b><d/></a>").get hsome) :=
    .inl ⟨_, (Option.some_get hsome).symm⟩
  obtain ⟨-, -, -, -, -, -, hkinds, hattached, -, -, hbefore, -⟩ :=
    forest_of_edits hnew [.setText 0 "u", .detach 2]
      [.setText 2 "v", .detach 0, .setText 0 ""]
  refine ⟨_, (Option.some_get hsome).symm, hnew, hold, hroot, hgone,
    helements, hkinds, hbefore, fun hreach => ?_⟩
  rw [(hattached 3).mpr hreach] at hthree
  cases hthree

end Document

end Overlay.Xml
