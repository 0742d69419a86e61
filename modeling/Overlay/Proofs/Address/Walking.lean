/-
The order of the index in terms of what is below what.

The index walks down from the root and lists the children of an element
before anything below them. However a document was edited, its elements
are therefore listed once each, and none is listed before an element that
it is below (`entries_descend`). What an address resolves to keeps that
order (`resolve_descends`): whoever works through the matches one by one
is through with an element before the elements below it have their turn.
-/
import Overlay.Proofs.Address.Pointing
import Overlay.Proofs.Xml.Forests

namespace Overlay

open Xml

namespace ElementIndex

variable {doc : Document}

/-- What is listed below an element has its parent at or below it. -/
theorem parent?_of_mem_entriesBelow (h : doc.Linked)
    {parent e : IndexEntry} (he : e ∈ entriesBelow doc parent) :
    ∃ q, doc.parent? e.node = some q ∧ doc.Reaches parent.node q := by
  fun_induction entriesBelow doc parent with
  | case1 parent children ih =>
      have hchild : ∀ c ∈ children, c.node ∈ doc.children parent.node :=
        fun c hc => List.mem_of_mem_filter
          (mem_elementChildren_of_mem_childEntries hc)
      rcases List.mem_append.mp he with he | he
      · exact ⟨parent.node, (h.child _ _ (hchild e he)).1, .refl⟩
      · obtain ⟨c, hc, he⟩ := List.mem_flatMap.mp he
        split at he
        case isTrue hlt =>
            obtain ⟨q, hq, hreach⟩ := ih c hlt he
            exact ⟨q, hq, hreach.head (hchild c hc)⟩
        case isFalse => cases he

/-- The children of an element are not below each other. -/
theorem childEntries_descend (h : doc.Linked) (parent : IndexEntry) :
    (childEntries doc parent).Pairwise fun e f =>
      ¬ doc.Reaches f.node e.node := by
  have hnodup : (childEntries doc parent).Pairwise fun e f =>
      e.node ≠ f.node := by
    rw [← List.pairwise_map, map_node_childEntries]
    exact (h.nodup parent.node).filter _
  refine hnodup.imp_of_mem fun {e f} he hf hne hreach => hne ?_
  have he := mem_elementChildren_of_mem_childEntries he
  have hf := mem_elementChildren_of_mem_childEntries hf
  exact (h.sibling_eq (List.mem_of_mem_filter hf)
    (List.mem_of_mem_filter he) hreach .refl).symm

/-- Below an element, nothing is listed before what it is below. -/
theorem entriesBelow_descend (h : doc.Linked) (parent : IndexEntry) :
    (entriesBelow doc parent).Pairwise fun e f =>
      ¬ doc.Reaches f.node e.node := by
  fun_induction entriesBelow doc parent with
  | case1 parent children ih =>
      have hchild : ∀ c ∈ children, c.node ∈ doc.children parent.node :=
        fun c hc => List.mem_of_mem_filter
          (mem_elementChildren_of_mem_childEntries hc)
      -- what is below a child: nothing else is known of the recursion
      have hbelow : ∀ c ∈ children, ∀ below,
          below = (if _h : parent.node < c.node ∧ c.node < doc.size then
            entriesBelow doc c else []) →
          below.Pairwise (fun e f => ¬ doc.Reaches f.node e.node)
            ∧ ∀ e ∈ below, ∃ q, doc.parent? e.node = some q
              ∧ doc.Reaches c.node q := by
        rintro c hc below rfl
        split
        case isTrue hlt =>
            exact ⟨ih c hlt, fun e he => parent?_of_mem_entriesBelow h he⟩
        case isFalse => simp
      rw [List.pairwise_append, List.pairwise_flatMap]
      refine ⟨childEntries_descend h parent,
        ⟨fun c hc => (hbelow c hc _ rfl).1, ?_⟩, ?_⟩
      · -- below two children
        refine (childEntries_descend h parent).imp_of_mem
          fun {c d} hc hd hapart e he f hf hreach => hapart ?_
        obtain ⟨q, hq, hcq⟩ := (hbelow c hc _ rfl).2 e he
        obtain ⟨r, hr, hdr⟩ := (hbelow d hd _ rfl).2 f hf
        have hce := hcq.tail (h.parent _ _ hq).1
        have hde := (hdr.tail (h.parent _ _ hr).1).trans hreach
        rw [h.sibling_eq (hchild d hd) (hchild c hc) hde hce]
        exact .refl
      · -- a child, and what is below one
        intro e he f hf hreach
        obtain ⟨c, hc, hf⟩ := List.mem_flatMap.mp hf
        obtain ⟨q, hq, hcq⟩ := (hbelow c hc _ rfl).2 f hf
        have hcf := hcq.tail (h.parent _ _ hq).1
        have hce : c.node = e.node := h.sibling_eq (hchild c hc)
          (hchild e he) (hcf.trans hreach) .refl
        have hle := h.le_of_reaches hreach
        have hle' := h.le_of_reaches hcq
        have hlt := h.lt hq
        omega

/-- No element is listed before what it is below, or twice. -/
theorem entries_descend (h : doc.Linked) :
    (ofDocument doc).entries.Pairwise fun e f =>
      ¬ doc.Reaches f.node e.node := by
  refine List.pairwise_cons.mpr
    ⟨fun f hf hreach => ?_, entriesBelow_descend h _⟩
  obtain ⟨q, hq, hroot⟩ := parent?_of_mem_entriesBelow h hf
  have hle := h.le_of_reaches hreach
  have hle' := h.le_of_reaches hroot
  have hlt := h.lt hq
  omega

/-- Nor does it come before it among the elements at an address. -/
theorem resolve_descends (h : doc.Linked) (aliases : Table String)
    (a : Address) (cache : Wildcard.Cache) :
    (((ofDocument doc).resolve aliases a).run cache).1.Pairwise fun x y =>
      ¬ doc.Reaches y x :=
  (List.pairwise_map.mpr (entries_descend h)).sublist
    (resolve_sublist _ aliases a cache)

end ElementIndex

end Overlay
