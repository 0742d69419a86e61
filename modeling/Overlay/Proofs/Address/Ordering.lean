/-
The order in which an address is resolved.

# The order of the index

The index lists the children of an element together, before anything
below them. So its elements come in the order of their parents, and those
of one parent in the order of the document (`ComesBefore`): of two
matches the first one is the one whose parent is older, even if it stands
behind everything that is below an older sibling.

Document order is therefore kept exactly if the matches are ordered like
their parents. For elements of one depth they are, since blocks of
siblings do not overlap; and the elements at a rooted path have one depth
(`length_of_covers`).
-/
import Overlay.Proofs.Address.Resolving
import Overlay.Proofs.Xml.Lineages

namespace Overlay

open Xml

namespace Xml.Document

variable {doc : Document}

-- ====================================================== document order

/-- Whether one node comes before another if nodes are listed by their
parents, and those of one parent in the order of the document. The root,
which has no parent, comes first. -/
def ComesBefore (doc : Document) (x y : Nat) : Prop :=
  doc.parent? x < doc.parent? y
    ∨ doc.parent? x = doc.parent? y ∧ x < y

theorem not_parent_lt {o o' : Option Nat} (h : o < o') : ¬ o' < o := by
  intro h'
  cases o with
  | none => cases o' <;> cases h'
  | some n =>
      cases o' with
      | none => cases h
      | some m => exact Nat.lt_asymm h h'

theorem ComesBefore.ne {x y : Nat} (h : doc.ComesBefore x y) : x ≠ y := by
  rintro rfl
  rcases h with h | ⟨-, h⟩
  · exact not_parent_lt h h
  · exact Nat.lt_irrefl x h

/-- Nodes that are listed by their parents are listed in document order
exactly if they are ordered like their parents. -/
theorem sorted_iff {nodes : List Nat} (h : nodes.Pairwise doc.ComesBefore) :
    nodes.Pairwise (· < ·) ↔ ∀ x ∈ nodes, ∀ y ∈ nodes,
      doc.parent? x < doc.parent? y → x < y := by
  constructor
  · intro hsorted
    -- in a sorted list, numbers tell which node comes first
    have hboth : nodes.Pairwise fun x y =>
        (x < y → doc.ComesBefore x y) ∧ (y < x → doc.ComesBefore y x) :=
      (hsorted.and h).imp fun {x y} h =>
        ⟨fun _ => h.2, fun hlt => absurd h.1 (by omega)⟩
    have hsymm : Std.Symm fun x y : Nat =>
        (x < y → doc.ComesBefore x y) ∧ (y < x → doc.ComesBefore y x) :=
      ⟨fun x y h => ⟨h.2, h.1⟩⟩
    have hall := hboth.forall_of_forall fun x _ =>
      ⟨fun h => absurd h (Nat.lt_irrefl x), fun h => absurd h (Nat.lt_irrefl x)⟩
    intro x hx y hy hlt
    rcases Nat.lt_trichotomy x y with h | rfl | h
    · exact h
    · exact absurd hlt (not_parent_lt hlt)
    · rcases (hall hx hy).2 h with hback | ⟨heq, -⟩
      · exact absurd hback (not_parent_lt hlt)
      · rw [heq] at hlt
        exact absurd hlt (not_parent_lt hlt)
  · intro hparents
    refine h.imp_of_mem fun {x y} hx hy h => ?_
    rcases h with h | ⟨-, h⟩
    · exact hparents x hx y hy h
    · exact h

end Xml.Document

-- =============================================================== index

namespace ElementIndex

variable {doc : Document}

theorem length_chain_of_mem_childEntries {parent e : IndexEntry}
    (h : e ∈ childEntries doc parent) :
    e.chain.length = parent.chain.length + 1 := by
  obtain ⟨⟨id, position⟩, -, rfl⟩ := List.mem_map.mp h
  simp [entryAt]

/-- Where an entry stands that is below another one. -/
structure IsBelow (doc : Document) (parent e : IndexEntry) : Prop where
  above : ∃ q, doc.parent? e.node = some q ∧ parent.node ≤ q ∧ q < e.node
  block : e.node < doc.blockEnd parent.node
  depth : parent.chain.length < e.chain.length

/-- What holds of two entries of which the first one is listed earlier. -/
structure Precedes (doc : Document) (e f : IndexEntry) : Prop where
  parents : doc.ComesBefore e.node f.node
  depth : e.chain.length = f.chain.length → e.node < f.node

/-- The children of an element, as entries. -/
theorem of_mem_childEntries {parent e : IndexEntry}
    (h : doc.HasBlock parent.node) (he : e ∈ childEntries doc parent) :
    parent.node < e.node ∧ doc.HasBlock e.node
      ∧ doc.parent? e.node = some parent.node
      ∧ doc.blockEnd e.node ≤ doc.blockEnd parent.node := by
  exact h.children.1 _ (List.mem_of_mem_filter
    (mem_elementChildren_of_mem_childEntries he))

theorem pairwise_childEntries {parent : IndexEntry}
    (h : doc.HasBlock parent.node) :
    (childEntries doc parent).Pairwise fun e f =>
      doc.blockEnd e.node ≤ f.node := by
  have hpairs := h.children.2.filter doc.isElement
  have hmap := map_node_childEntries doc parent
  rw [Document.elementChildren] at hmap
  rwa [← hmap, List.pairwise_map] at hpairs

/-- The entries below an element are listed by their parents, and those
of one depth in the order of the document. -/
theorem entriesBelow_precedes (doc : Document) (parent : IndexEntry)
    (h : doc.HasBlock parent.node) :
    (∀ e ∈ entriesBelow doc parent, IsBelow doc parent e)
      ∧ (entriesBelow doc parent).Pairwise (Precedes doc) := by
  fun_induction entriesBelow doc parent with
  | case1 parent children ih =>
      have hchild := fun e he => of_mem_childEntries (e := e) h he
      have hdepth : ∀ e ∈ childEntries doc parent,
          e.chain.length = parent.chain.length + 1 :=
        fun _ he => length_chain_of_mem_childEntries he
      have hsiblings := pairwise_childEntries h
      -- what is below a child: nothing else is known of the recursion
      have hbelow : ∀ c ∈ children, ∀ below,
          below = (if _h : parent.node < c.node ∧ c.node < doc.size then
            entriesBelow doc c else []) →
          (∀ e ∈ below, IsBelow doc c e)
            ∧ below.Pairwise (Precedes doc) := by
        rintro c hc below rfl
        split
        case isTrue hlt => exact ih c hlt (hchild c hc).2.1
        case isFalse => simp
      constructor
      · intro e he
        rcases List.mem_append.mp he with he | he
        · obtain ⟨hlt, -, hparent, hend⟩ := hchild e he
          have := doc.lt_blockEnd e.node
          exact ⟨⟨parent.node, hparent, Nat.le_refl _, hlt⟩, by omega,
            by rw [hdepth e he]; omega⟩
        · obtain ⟨c, hc, he⟩ := List.mem_flatMap.mp he
          obtain ⟨hlt, -, -, hend⟩ := hchild c hc
          obtain ⟨⟨q, hq, hle, hqe⟩, hblock, hlen⟩ :=
            (hbelow c hc _ rfl).1 e he
          rw [hdepth c hc] at hlen
          exact ⟨⟨q, hq, by omega, hqe⟩, by omega, by omega⟩
      · rw [List.pairwise_append]
        refine ⟨?_, ?_, ?_⟩
        · -- two children
          refine hsiblings.imp_of_mem fun {e f} he hf hle => ?_
          have hlt := doc.lt_blockEnd e.node
          have hparents : doc.parent? e.node = doc.parent? f.node := by
            rw [(hchild e he).2.2.1, (hchild f hf).2.2.1]
          exact ⟨.inr ⟨hparents, by omega⟩, fun _ => by omega⟩
        · -- below the children, under one of them or under two
          rw [List.pairwise_flatMap]
          refine ⟨fun c hc => (hbelow c hc _ rfl).2, ?_⟩
          refine hsiblings.imp_of_mem fun {c d} hc hd hle e he f hf => ?_
          obtain ⟨⟨q, hq, hcq, hqe⟩, hblock, -⟩ := (hbelow c hc _ rfl).1 e he
          obtain ⟨⟨r, hr, hdr, hrf⟩, -, -⟩ := (hbelow d hd _ rfl).1 f hf
          refine ⟨.inl ?_, fun _ => by omega⟩
          rw [hq, hr, Option.some_lt_some]
          omega
        · -- a child, and what is below one
          intro e he f hf
          obtain ⟨c, hc, hf⟩ := List.mem_flatMap.mp hf
          obtain ⟨⟨q, hq, hcq, -⟩, -, hlen⟩ := (hbelow c hc _ rfl).1 f hf
          have hlt := (hchild c hc).1
          refine ⟨.inl ?_, fun hsame => ?_⟩
          · rw [(hchild e he).2.2.1, hq, Option.some_lt_some]
            omega
          · rw [hdepth c hc, ← hdepth e he] at hlen
            omega

/-- All entries of a document that was read, in their order. -/
theorem entries_precedes {s : String} (h : Document.parse s = some doc) :
    (ofDocument doc).entries.Pairwise (Precedes doc) := by
  obtain ⟨hblock, hroot⟩ := Document.hasBlock_root h
  obtain ⟨hbelow, hpairs⟩ := entriesBelow_precedes doc (rootEntry doc) hblock
  refine List.pairwise_cons.mpr ⟨fun e he => ?_, hpairs⟩
  obtain ⟨⟨q, hq, hle, hlt⟩, -, hlen⟩ := hbelow e he
  have hfirst : (rootEntry doc).node = doc.root := rfl
  refine ⟨.inl ?_, fun _ => by omega⟩
  rw [hfirst, hroot, hq]
  trivial

end ElementIndex

-- =========================================================== resolving

/-- A rooted path covers chains of one length only, if they begin with
the same link. -/
theorem length_of_covers {a : Address} (ha : a.shape = .rooted) {root : Link}
    {xs ys : List Link} (hx : a.covers (root :: xs) = true)
    (hy : a.covers (root :: ys) = true) : xs.length = ys.length := by
  have hcovers : ∀ {zs : List Link}, a.covers (root :: zs) = true →
      zs.length = if (a.steps.head a.steps_ne_nil).covers root
        then a.steps.length - 1 else a.steps.length := by
    intro zs h
    obtain ⟨first, rest, hsteps⟩ := List.exists_cons_of_ne_nil a.steps_ne_nil
    simp only [Address.covers, ha, hsteps, stepsCover, List.length_cons,
      List.zip_cons_cons, List.all_cons, Bool.or_eq_true, Bool.and_eq_true,
      beq_iff_eq, Bool.not_eq_true'] at h
    simp only [hsteps, List.head_cons, List.length_cons]
    rcases h with ⟨hlen, hfirst, -⟩ | ⟨hfirst, hlen, -⟩
    · rw [if_pos hfirst]
      omega
    · rw [if_neg (by simp [hfirst]), hlen]
  rw [hcovers hx, hcovers hy]

/-- The matches of an address come without repeats and in the order of
their parents, those of one parent in the order of the document. So they
come in document order exactly if they are ordered like their parents; at
a rooted path they always do. -/
theorem resolve_order {s : String} {doc : Document}
    (hdoc : Document.parse s = some doc) {text : String} {a : Address}
    (ha : Address.parse text = .ok a) (aliases : Table String)
    (cache : Wildcard.Cache) :
    let nodes := (((ElementIndex.ofDocument doc).resolve aliases a).run
      cache).1
    nodes.Nodup ∧ nodes.Pairwise doc.ComesBefore
      ∧ (nodes.Pairwise (· < ·) ↔ ∀ x ∈ nodes, ∀ y ∈ nodes,
          doc.parent? x < doc.parent? y → x < y)
      ∧ (a.shape = .rooted → nodes.Pairwise (· < ·)) := by
  intro nodes
  have hnodes : nodes = ((ElementIndex.ofDocument doc).entries.filter
      (a.selects aliases)).map (·.node) :=
    resolve_answers_of_parse hdoc ha aliases cache
  have hentries := (ElementIndex.entries_precedes hdoc).filter
    (a.selects aliases)
  have hbefore : nodes.Pairwise doc.ComesBefore := by
    rw [hnodes, List.pairwise_map]
    exact hentries.imp fun h => h.parents
  refine ⟨hbefore.imp fun h => h.ne, hbefore,
    Document.sorted_iff hbefore, ?_⟩
  intro hshape
  obtain ⟨root, first, others, -, -, hunder⟩ :=
    ElementIndex.entries_isUnder fun _ _ => kind_of_parse hdoc
  rw [hnodes, List.pairwise_map]
  refine hentries.imp_of_mem fun {e f} he hf h => h.depth ?_
  obtain ⟨hmem, hsel⟩ := List.mem_filter.mp he
  obtain ⟨hmem', hsel'⟩ := List.mem_filter.mp hf
  obtain ⟨xs, hx⟩ := (hunder e hmem).chain
  obtain ⟨ys, hy⟩ := (hunder f hmem').chain
  rw [Address.selects, Bool.and_eq_true, hx] at hsel
  rw [Address.selects, Bool.and_eq_true, hy] at hsel'
  rw [hx, hy, List.length_cons, List.length_cons,
    length_of_covers hshape hsel.1 hsel'.1]

/-- A document and an address that were read, and what is found. -/
theorem exists_resolved {s text : String} {shape : Shape} {nodes : List Nat}
    (h : ((Document.parse s).bind fun doc =>
        (Address.parse text).toOption.map fun a =>
          (a.shape, (((ElementIndex.ofDocument doc).resolve [] a).run
            default).1)) = some (shape, nodes)) :
    ∃ doc a, Document.parse s = some doc ∧ Address.parse text = .ok a
      ∧ a.shape = shape
      ∧ (((ElementIndex.ofDocument doc).resolve [] a).run default).1
        = nodes := by
  obtain ⟨doc, hdoc, h⟩ := Option.bind_eq_some_iff.mp h
  obtain ⟨a, ha, h⟩ := Option.map_eq_some_iff.mp h
  obtain ⟨hshape, hnodes⟩ := Prod.mk.inj h
  exact ⟨doc, a, hdoc, toOption_eq_some_iff.mp ha, hshape, hnodes⟩

/-- Three elements at a rooted path, two of them with one parent. -/
theorem resolve_order_rooted_path :
    ∃ doc a, Document.parse "<r><a><x/><x/></a><a><x/></a></r>" = some doc
      ∧ Address.parse "/r/*/x" = .ok a ∧ a.shape = .rooted
      ∧ (((ElementIndex.ofDocument doc).resolve [] a).run default).1
        = [2, 3, 5]
      ∧ [2, 3, 5].Pairwise (· < ·) := by
  obtain ⟨doc, a, hdoc, ha, hshape, hnodes⟩ := @exists_resolved
    "<r><a><x/><x/></a><a><x/></a></r>" "/r/*/x" .rooted [2, 3, 5]
    (by decide +kernel)
  have h := resolve_order hdoc ha [] default
  rw [hnodes] at h
  exact ⟨doc, a, hdoc, ha, hshape, hnodes, h.2.2.2 hshape⟩

/-- The second `x` of the document is found first, since its parent is
the root. -/
theorem resolve_out_of_order :
    ∃ doc a, Document.parse "<r><a><x/></a><x/></r>" = some doc
      ∧ Address.parse "x" = .ok a
      ∧ (((ElementIndex.ofDocument doc).resolve [] a).run default).1 = [3, 2]
      ∧ ¬ (((ElementIndex.ofDocument doc).resolve [] a).run
        default).1.Pairwise (· < ·) := by
  obtain ⟨doc, a, hdoc, ha, -, hnodes⟩ := @exists_resolved
    "<r><a><x/></a><x/></r>" "x" .bare [3, 2] (by decide +kernel)
  exact ⟨doc, a, hdoc, ha, hnodes, by rw [hnodes]; decide⟩

end Overlay
