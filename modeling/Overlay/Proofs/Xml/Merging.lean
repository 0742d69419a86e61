/-
Texts that stand next to each other.

Two texts in a row are written without anything between them, and read
as one. `Tree.merged` joins them beforehand: the merged tree is written
in the same way (`layout_merged`), and no two of its texts meet
(`merged_merged`).

Merging never makes a tree larger, and a tree that keeps its size has
not changed (`count_merged`). Nor is anything added where a tree is
read (`count_of_read?`). So a tree that is read back as it is has no two
texts in a row, and no blank one.
-/
import Overlay.Proofs.Xml.Rereading

namespace Overlay.Xml

open Text

/-- Puts a tree in front of trees; a text is joined with a text that
comes first. -/
def joinText : Tree → List Tree → List Tree
  | .text s, .text t :: rest => .text (s ++ t) :: rest
  | t, rest => t :: rest

mutual

/-- A tree with the texts joined that stand next to each other. -/
def Tree.merged : Tree → Tree
  | .element e children => .element e (mergedAll children)
  | .text s => .text s
  | .comment s => .comment s
  | .instruction t d => .instruction t d

/-- Trees with the texts joined that stand next to each other. -/
def mergedAll : List Tree → List Tree
  | [] => []
  | t :: rest => joinText t.merged (mergedAll rest)

end

/-- Either two texts are joined, or a tree is put in front. -/
theorem joinText_cases (t : Tree) (rest : List Tree) :
    (∃ s u more, t = .text s ∧ rest = .text u :: more
        ∧ joinText t rest = .text (s ++ u) :: more)
      ∨ (joinText t rest = t :: rest
        ∧ (t.isText = true → ∀ u ∈ rest.head?, u.isText = false)) := by
  cases t with
  | text s =>
      cases rest with
      | nil => exact .inr ⟨rfl, by simp⟩
      | cons u more =>
          cases u with
          | text u => exact .inl ⟨s, u, more, rfl, rfl, rfl⟩
          | _ =>
              refine .inr ⟨rfl, fun _ v hv => ?_⟩
              cases hv
              rfl
  | _ => exact .inr ⟨rfl, fun h => by cases h⟩

mutual

/-- In a merged tree no two texts meet. -/
theorem merged_merged (t : Tree) : t.merged.Merged := by
  cases t with
  | element e children => exact mergedAll_mergedAll children
  | _ => trivial

/-- Trees are merged once and for all: no two texts stand side by side
afterwards. -/
theorem mergedAll_mergedAll (ts : List Tree) :
    MergedAll (mergedAll ts) := by
  cases ts with
  | nil => trivial
  | cons t rest =>
      have hrest := mergedAll_mergedAll rest
      rw [mergedAll]
      rcases joinText_cases t.merged (mergedAll rest) with
        ⟨s, u, more, -, he, hj⟩ | ⟨hj, hsep⟩
      · rw [he] at hrest
        rw [hj]
        exact ⟨trivial, fun _ => hrest.2.1 rfl, hrest.2.2⟩
      · rw [hj]
        exact ⟨merged_merged t, hsep, hrest⟩

end

mutual

/-- A tree in which no two texts meet is merged. -/
theorem Tree.Merged.merged_eq {t : Tree} (h : t.Merged) : t.merged = t := by
  cases t with
  | element e children => rw [Tree.merged, MergedAll.mergedAll_eq h]
  | _ => rfl

/-- Where this is so already, nothing is merged. -/
theorem MergedAll.mergedAll_eq {ts : List Tree} (h : MergedAll ts) :
    mergedAll ts = ts := by
  cases ts with
  | nil => rfl
  | cons t rest =>
      obtain ⟨ht, hsep, hrest⟩ := h
      rw [mergedAll, ht.merged_eq, MergedAll.mergedAll_eq hrest]
      rcases joinText_cases t rest with
        ⟨s, u, more, rfl, rfl, -⟩ | ⟨hj, -⟩
      · cases hsep rfl (.text u) rfl
      · exact hj

end

mutual

/-- A merged tree can be written if the tree can. -/
theorem plain_merged (t : Tree) (h : t.All NodeKind.Plain) :
    t.merged.All NodeKind.Plain := by
  cases t with
  | element e children => exact ⟨h.1, plain_mergedAll children h.2⟩
  | _ => exact h

/-- Joining texts changes no name. -/
theorem plain_mergedAll (ts : List Tree) (h : AllOf NodeKind.Plain ts) :
    AllOf NodeKind.Plain (mergedAll ts) := by
  cases ts with
  | nil => trivial
  | cons t rest =>
      have ht := plain_merged t h.1
      have hrest := plain_mergedAll rest h.2
      rw [mergedAll]
      rcases joinText_cases t.merged (mergedAll rest) with
        ⟨s, u, more, -, he, hj⟩ | ⟨hj, -⟩
      · rw [he] at hrest
        rw [hj]
        refine ⟨fun hs => hrest.1 ?_, hrest.2⟩
        rw [← String.toList_inj, String.toList_append] at hs
        exact String.toList_inj.mp (List.append_eq_nil_iff.mp hs).2
      · rw [hj]
        exact ⟨ht, hrest⟩

end

-- ============================================================= writing

/-- Pieces are laid out alike if what follows is laid out alike. -/
theorem layout_append_congr (indent : Nat) {ps qs : List Piece}
    (h : ∀ breaks, layout indent breaks ps = layout indent breaks qs)
    (front : List Piece) (breaks : Bool) :
    layout indent breaks (front ++ ps)
      = layout indent breaks (front ++ qs) := by
  induction front generalizing breaks with
  | nil => exact h breaks
  | cons p front ih =>
      cases p with
      | text t => rw [List.cons_append, List.cons_append, layout, layout, ih]
      | markup level t =>
          rw [List.cons_append, List.cons_append, layout, layout, ih]

theorem mergedAll_ne_nil {ts : List Tree} (h : ts ≠ []) :
    mergedAll ts ≠ [] := by
  cases ts with
  | nil => exact absurd rfl h
  | cons t rest =>
      rw [mergedAll]
      rcases joinText_cases t.merged (mergedAll rest) with
        ⟨s, u, more, -, -, hj⟩ | ⟨hj, -⟩ <;> simp [hj]

mutual

/-- A merged tree is written like the tree. -/
theorem layout_merged (indent level : Nat) (t : Tree) (breaks : Bool)
    (ps : List Piece) :
    layout indent breaks (t.merged.pieces level ++ ps)
      = layout indent breaks (t.pieces level ++ ps) := by
  cases t with
  | element e children =>
      cases children with
      | nil => rfl
      | cons c cs =>
          have hne := mergedAll_ne_nil (List.cons_ne_nil c cs)
          have hchildren := fun breaks => layout_mergedAll indent (level + 1)
            (c :: cs) breaks (.markup level (closingTag e) :: ps)
          have hpieces : ∀ ts, ts ≠ [] →
              (Tree.element e ts).pieces level ++ ps
                = [.markup level (tagText e ++ ['>'])]
                  ++ (piecesOfAll (level + 1) ts
                    ++ .markup level (closingTag e) :: ps) := by
            intro ts hts
            rw [Tree.pieces, closingTag]
            · simp
            · exact hts
          rw [Tree.merged, hpieces _ hne, hpieces _ (List.cons_ne_nil c cs)]
          exact layout_append_congr indent hchildren _ breaks
  | _ => rfl

/-- Merged trees are written as the others are: between texts no line is
broken. The induction is on the trees, with the text that stands last joined to
the next. -/
theorem layout_mergedAll (indent level : Nat) (ts : List Tree)
    (breaks : Bool) (ps : List Piece) :
    layout indent breaks (piecesOfAll level (mergedAll ts) ++ ps)
      = layout indent breaks (piecesOfAll level ts ++ ps) := by
  cases ts with
  | nil => rfl
  | cons t rest =>
      have hrest := fun breaks =>
        layout_mergedAll indent level rest breaks ps
      have hjoin : layout indent breaks
          (piecesOfAll level (joinText t.merged (mergedAll rest)) ++ ps)
          = layout indent breaks (t.merged.pieces level
            ++ (piecesOfAll level (mergedAll rest) ++ ps)) := by
        rcases joinText_cases t.merged (mergedAll rest) with
          ⟨s, u, more, ht, hr, hj⟩ | ⟨hj, -⟩
        · rw [hj, ht, hr]
          simp [piecesOfAll, Tree.pieces, layout, escape_append]
        · rw [hj, piecesOfAll, List.append_assoc]
      rw [mergedAll, hjoin, layout_merged, piecesOfAll, List.append_assoc]
      exact layout_append_congr indent hrest _ breaks

end

-- ============================================================ counting

mutual

/-- Merging makes no tree larger, and changes none that keeps its
size. -/
theorem count_merged (t : Tree) :
    t.merged.count ≤ t.count
      ∧ (t.merged.count = t.count → t.merged = t) := by
  cases t with
  | element e children =>
      obtain ⟨hle, heq⟩ := count_mergedAll children
      rw [Tree.merged, Tree.count, Tree.count]
      refine ⟨by omega, fun h => ?_⟩
      rw [heq (by omega)]
  | _ => exact ⟨Nat.le_refl _, fun _ => rfl⟩

/-- Each text that is joined to another makes one tree less, so where no tree
is missing nothing was merged. -/
theorem count_mergedAll (ts : List Tree) :
    countAll (mergedAll ts) ≤ countAll ts
      ∧ (countAll (mergedAll ts) = countAll ts → mergedAll ts = ts) := by
  cases ts with
  | nil => exact ⟨Nat.le_refl _, fun _ => rfl⟩
  | cons t rest =>
      obtain ⟨hle, heq⟩ := count_merged t
      obtain ⟨hrest, hmore⟩ := count_mergedAll rest
      rw [mergedAll]
      rcases joinText_cases t.merged (mergedAll rest) with
        ⟨s, u, more, ht, hr, hj⟩ | ⟨hj, -⟩
      · rw [hr, countAll, Tree.count] at hrest
        rw [ht, Tree.count] at hle
        rw [hj, countAll, countAll, Tree.count]
        exact ⟨by omega, fun h => by omega⟩
      · rw [hj, countAll, countAll]
        refine ⟨by omega, fun h => ?_⟩
        rw [heq (by omega), hmore (by omega)]

end

/-- What is left out is missed. -/
theorem countAll_filter (p : Tree → Bool) (ts : List Tree) :
    countAll (ts.filter p) ≤ countAll ts
      ∧ (countAll (ts.filter p) = countAll ts → ts.filter p = ts) := by
  induction ts with
  | nil => exact ⟨Nat.le_refl _, fun _ => rfl⟩
  | cons t rest ih =>
      obtain ⟨hle, heq⟩ := ih
      have hpos := t.count_pos
      by_cases hp : p t = true
      · rw [List.filter_cons_of_pos hp, countAll, countAll]
        exact ⟨by omega, fun h => by rw [heq (by omega)]⟩
      · rw [List.filter_cons_of_neg hp, countAll]
        exact ⟨by omega, fun h => by omega⟩

mutual

/-- Nothing is added where a tree is read. -/
theorem count_of_read? {scope : Scope} (t : Tree) {read : Tree}
    (h : t.read? scope = some read) : read.count ≤ t.count := by
  cases t with
  | element e children =>
      obtain ⟨r, -, h⟩ := Option.bind_eq_some_iff.mp h
      obtain ⟨cs, hcs, rfl⟩ := Option.map_eq_some_iff.mp h
      have hle := countAll_of_readAll? children hcs
      have hfilter := (countAll_filter Tree.isVisible cs).1
      rw [Tree.count, Tree.count]
      omega
  | text s =>
      rw [Tree.read?] at h
      split at h
      · cases h
        exact Nat.le_refl _
      · cases h
  | comment s =>
      cases h
      exact Nat.le_refl _
  | instruction t d =>
      rw [Tree.read?] at h
      split at h
      · cases h
      · cases h
        exact Nat.le_refl _

/-- No more trees are read than were written. -/
theorem countAll_of_readAll? {scope : Scope} (ts : List Tree)
    {read : List Tree} (h : readAll? scope ts = some read) :
    countAll read ≤ countAll ts := by
  cases ts with
  | nil =>
      cases h
      exact Nat.le_refl _
  | cons t rest =>
      obtain ⟨u, hu, h⟩ := Option.bind_eq_some_iff.mp h
      obtain ⟨more, hmore, rfl⟩ := Option.map_eq_some_iff.mp h
      have ht := count_of_read? t hu
      have hrest := countAll_of_readAll? rest hmore
      rw [countAll, countAll]
      omega

end

/-- A tree that is read back as it is, once merged, was merged. -/
theorem merged_of_read? {scope : Scope} {t : Tree}
    (h : t.merged.read? scope = some t) : t.merged = t := by
  have hread := count_of_read? t.merged h
  obtain ⟨hle, heq⟩ := count_merged t
  exact heq (by omega)

end Overlay.Xml
