/-
What the report says of nodes that are gone already.

Containers are looked for before any of them is pruned, and each of them
is pruned, even if it is inside of an element that another container has
lost by then. The outer container has its turns first
(`Turn.turns_descend`). So whether a turn finds its element in the
document or in something that is gone can be said beforehand: it is in the
document exactly if the selection takes out nothing at or above the
container (`Selection.isAttached_moment_iff`), and only then the path in
the report starts at the root (`Linked.getLast?_lineage`).
-/
import Overlay.Proofs.Choice.Detaching

namespace Overlay

open Xml

-- =============================================================== turns

namespace Turn

variable {doc : Document} {key option : String} {container : Nat} {t : Turn}

/-- The element that a turn is about. -/
def element (t : Turn) : Nat := t.child.getD t.container

/-- Everything on the way up from the element of a turn: that of the
container, and in front of it the child, if there is one. -/
theorem lineage_element (hl : doc.Linked)
    (ht : ∀ x, t.child = some x → doc.parent? x = some t.container) :
    doc.lineage t.element = t.child.toList ++ doc.lineage t.container := by
  rw [element]
  cases hchild : t.child with
  | none => rfl
  | some x => exact hl.lineage_of_parent (ht x hchild)

theorem parent?_of_mem_ofContainer (hl : doc.Linked)
    (h : t ∈ ofContainer doc key option container) :
    ∀ x, t.child = some x → doc.parent? x = some container := by
  intro x hx
  have htakes : Selection.Takes doc option container x :=
    mem_children_ofContainer.mp (mem_children.mpr ⟨t, h, hx⟩)
  exact hl.parent?_of_mem_elementChildren htakes.1

/-- A moment cuts the turns in two: those that were before it are what the
document knows. -/
theorem exists_of_mem_moments {ts : List Turn} {m : Document × Turn}
    (hm : m ∈ moments doc ts) :
    ∃ before after, ts = before ++ m.2 :: after
      ∧ m.1 = doc.detachAll (children before) := by
  obtain ⟨i, hi, rfl⟩ := List.mem_mapIdx.mp hm
  refine ⟨ts.take i, ts.drop (i + 1), ?_, rfl⟩
  rw [List.cons_getElem_drop_succ, List.take_append_drop]

end Turn

namespace Selection

variable {doc : Document} {s : Selection} {aliases : Table String}

theorem of_mem_turns (hl : doc.Linked) {t : Turn}
    (h : t ∈ s.turns doc aliases) :
    t.container ∈ s.containers doc aliases
      ∧ ∀ x, t.child = some x → doc.parent? x = some t.container := by
  rw [turns] at h
  split at h
  · cases h
  · obtain ⟨c, hc, h⟩ := List.mem_flatMap.mp h
    have hcontainer := (Turn.of_mem_ofContainer h).2
    exact ⟨hcontainer ▸ hc, hcontainer ▸ Turn.parent?_of_mem_ofContainer hl h⟩

/-- A container has its turns before those that are below it. -/
theorem turns_descend (hl : doc.Linked) (s : Selection)
    (aliases : Table String) :
    (s.turns doc aliases).Pairwise fun t u =>
      doc.Reaches u.container t.container → u.container = t.container := by
  rw [turns]
  cases s.selected with
  | none => exact .nil
  | some option =>
      refine List.pairwise_flatMap.mpr ⟨fun c _ => ?_, ?_⟩
      · refine List.pairwise_of_forall_mem_list fun t ht u hu _ => ?_
        rw [(Turn.of_mem_ofContainer ht).2,
          (Turn.of_mem_ofContainer hu).2]
      · refine (s.containers_descend hl aliases).imp
          fun {c d} hbelow t ht u hu hreach => ?_
        rw [(Turn.of_mem_ofContainer ht).2,
          (Turn.of_mem_ofContainer hu).2] at hreach
        exact absurd hreach hbelow

/-- What is taken out at or above a container is taken out before its
first turn. -/
theorem mem_children_before (hl : doc.Linked) {before after : List Turn}
    {t : Turn} (hsplit : s.turns doc aliases = before ++ t :: after)
    {a : Nat} (ha : a ∈ doc.lineage t.container)
    (htaken : a ∈ s.taken doc aliases) : a ∈ Turn.children before := by
  obtain ⟨u, hu, hchild⟩ := Turn.mem_children.mp htaken
  have hparent := (s.of_mem_turns hl hu).2 a hchild
  -- the container that loses `a` is above the one of the turn
  have hreach : doc.Reaches u.container t.container :=
    (hl.reaches_of_mem_lineage ha).head (hl.parent a _ hparent).1
  have hne : u.container ≠ t.container := by
    have hlt := hl.lt hparent
    have hle := hl.le_of_reaches (hl.reaches_of_mem_lineage ha)
    omega
  have hdescend := s.turns_descend hl aliases
  rw [hsplit, List.pairwise_append, List.pairwise_cons] at hdescend
  rw [hsplit] at hu
  rcases List.mem_append.mp hu with hu | hu
  · exact Turn.mem_children.mpr ⟨u, hu, hchild⟩
  · rcases List.mem_cons.mp hu with rfl | hu
    · exact absurd rfl hne
    · exact absurd (hdescend.2.1.1 u hu hreach) hne

theorem container_of_mem_moments (hl : doc.Linked) {m : Document × Turn}
    (hm : m ∈ Turn.moments doc (s.turns doc aliases)) :
    m.2.container ∈ s.containers doc aliases := by
  obtain ⟨before, after, hsplit, -⟩ := Turn.exists_of_mem_moments hm
  exact (s.of_mem_turns hl (by rw [hsplit]; simp)).1

/-- A turn finds its element in the document if the selection takes out
nothing at or above the container. -/
theorem isAttached_moment_iff (hl : doc.Linked) (hs : doc.Sound)
    {m : Document × Turn}
    (hm : m ∈ Turn.moments doc (s.turns doc aliases)) :
    m.1.Linked ∧ doc.isAttached m.2.element = true
      ∧ (m.1.isAttached m.2.element = true
        ↔ ∀ a ∈ doc.lineage m.2.container, a ∉ s.taken doc aliases) := by
  obtain ⟨before, after, hsplit, hdoc⟩ := Turn.exists_of_mem_moments hm
  obtain ⟨hcontainer, hchild⟩ := s.of_mem_turns hl
    (t := m.2) (by rw [hsplit]; simp)
  have htaken : s.taken doc aliases = Turn.children before
      ++ (m.2.child.toList ++ Turn.children after) := by
    rw [taken, hsplit, Turn.children_append]
    refine congrArg _ ?_
    rw [Turn.children, List.filterMap_cons]
    cases m.2.child <;> rfl
  have hroot : doc.root ∉ Turn.children before := fun h =>
    s.root_not_mem_taken hl aliases
      (htaken ▸ List.mem_append_left _ h)
  have hwithout := Document.without_detachAll hl hroot
  rw [← hdoc] at hwithout
  have hattached : doc.isAttached m.2.element = true := by
    have hat := isAttached_of_mem_containers hl hs hcontainer
    rw [Turn.element]
    cases hx : m.2.child with
    | none => exact hat
    | some x => exact (hl.isAttached_of_parent (hchild x hx)).mpr hat
  refine ⟨hwithout.linked hl, hattached, ?_⟩
  rw [hwithout.isAttached_iff hl hroot, Turn.lineage_element hl hchild]
  -- the child itself is taken out only once
  have honce : ∀ x ∈ m.2.child.toList, x ∉ Turn.children before := by
    intro x hx hbefore
    have hnodup := s.taken_nodup hl aliases
    rw [htaken] at hnodup
    exact (List.nodup_append.mp hnodup).2.2 x hbefore x
      (List.mem_append_left _ hx) rfl
  constructor
  · intro h a ha hmem
    exact h.2 a (List.mem_append_right _ ha)
      (s.mem_children_before hl hsplit ha hmem)
  · refine fun h => ⟨hattached, fun a ha hbefore => ?_⟩
    rcases List.mem_append.mp ha with ha | ha
    · exact honce a ha hbefore
    · exact h a ha (htaken ▸ List.mem_append_left _ hbefore)

end Selection

namespace Choices

/-- Everything that a selection reports is about an element that was in
the document when the selection began: the child that goes, or the
container without the option. When it is reported, the element is in the
document exactly if the selection dooms nothing at or above the container,
and exactly then its path starts at the root. -/
theorem prune_reports {doc : Document} (hnew : doc.IsNew)
    (edits : List Edit) (c : Choices) (before : List Selection)
    (s : Selection) :
    let aliases := c.resolver.aliases
    let here := c.prune (doc.edited edits) before
    let next := c.prune (doc.edited edits) (before ++ [s])
    let found := here.2.1
    let moments := Turn.moments found (s.turns found aliases)
    next.1.removed = here.1.removed ++ moments.filterMap Turn.removal?
      ∧ next.2.2.issues = here.2.2.issues ++ moments.filterMap Turn.issue?
      ∧ ∀ m ∈ moments,
        m.2.container ∈ s.containers found aliases
          ∧ found.isAttached m.2.element = true
          ∧ (m.1.isAttached m.2.element = true
            ↔ ∀ a ∈ found.lineage m.2.container, ¬ s.Dooms found aliases a)
          ∧ (m.1.isAttached m.2.element = true
            ↔ (m.1.lineage m.2.element).getLast? = some m.1.root) := by
  obtain ⟨hl, hs, -, hremoved, hissues⟩ := prune_concat hnew edits c before s
  refine ⟨hremoved, hissues, fun m hm => ?_⟩
  obtain ⟨hlinked, hattached, hiff⟩ := Selection.isAttached_moment_iff hl hs hm
  simp only [Selection.mem_taken_iff] at hiff
  exact ⟨Selection.container_of_mem_moments hl hm, hattached, hiff,
    hlinked.getLast?_lineage⟩

/-- What a selection of this shape reports to have taken out, and for each
of its turns the path of the element, and whether it is in the document. -/
def shownOf (text address option : String) :
    Option (List Removal × List (String × Bool)) := do
  let doc ← Document.parse text
  let a ← (Address.parse address).toOption
  let s : Selection := ⟨address, a, .simple, some option⟩
  return (((default : Choices).prune doc [s]).1.removed,
    (Turn.moments doc (s.turns doc [])).map fun m =>
      (m.1.pathOf m.2.element, m.1.isAttached m.2.element))

/-- What is computed for a text and a selection is what it takes out, with the
containers that it reports. -/
theorem exists_shownOf {text address option : String}
    {removed : List Removal} {shown : List (String × Bool)}
    (h : shownOf text address option = some (removed, shown)) :
    ∃ doc a, Document.parse text = some doc ∧ Address.parse address = .ok a
      ∧ (let s : Selection := ⟨address, a, .simple, some option⟩
        ((default : Choices).prune doc [s]).1.removed = removed
          ∧ (Turn.moments doc (s.turns doc [])).map (fun m =>
              (m.1.pathOf m.2.element, m.1.isAttached m.2.element))
            = shown) := by
  simp only [shownOf, Option.bind_eq_bind, Option.bind_eq_some_iff,
    Option.pure_def, Option.some.injEq, Prod.mk.injEq] at h
  obtain ⟨doc, hdoc, a, ha, hremoved, hshown⟩ := h
  exact ⟨doc, a, hdoc, toOption_eq_some_iff.mp ha, hremoved, hshown⟩

/-- The outer container lacks the option, and so the inner one is in the
document when it loses a child. -/
theorem prune_reports_missing_option :
    ∃ doc a, Document.parse "<r><c><m/><c><k/><n/></c></c></r>" = some doc
      ∧ Address.parse "c" = .ok a
      ∧ (let s : Selection := ⟨"c", a, .simple, some "k"⟩
        let moments := Turn.moments doc (s.turns doc [])
        moments.map (fun m =>
            (m.1.pathOf m.2.element, m.1.isAttached m.2.element))
          = [("/r/c", true), ("/r/c/c/n", true)]
          ∧ ∀ m ∈ moments, ∀ x ∈ doc.lineage m.2.container,
            ¬ s.Dooms doc [] x) := by
  obtain ⟨doc, a, hdoc, ha, -, hshown⟩ :=
    @exists_shownOf "<r><c><m/><c><k/><n/></c></c></r>" "c" "k"
      [⟨"c", "/r/c/c/n"⟩] [("/r/c", true), ("/r/c/c/n", true)]
      (by decide +kernel)
  obtain ⟨-, -, hmoments⟩ := prune_reports (.inl ⟨_, hdoc⟩) [] default []
    ⟨"c", a, .simple, some "k"⟩
  refine ⟨doc, a, hdoc, ha, hshown, fun m hm => ?_⟩
  have hmem := List.mem_map_of_mem (f := fun m : Document × Turn =>
    (m.1.pathOf m.2.element, m.1.isAttached m.2.element)) hm
  rw [hshown] at hmem
  have hattached : m.1.isAttached m.2.element = true := by
    simp only [List.mem_cons, Prod.mk.injEq, List.not_mem_nil] at hmem
    rcases hmem with h | h | h
    · exact h.2
    · exact h.2
    · cases h
  exact (hmoments m hm).2.2.1.mp hattached

/-- The outer container loses the inner one, which still has its turn: what
it loses then is in the report, with a path that does not start at the
root. -/
theorem removed_below_gone :
    ∃ doc a, Document.parse "<r><c><k/><c><k/><m/></c></c></r>" = some doc
      ∧ Address.parse "c" = .ok a
      ∧ (let s : Selection := ⟨"c", a, .simple, some "k"⟩
        ((default : Choices).prune doc [s]).1.removed
            = [⟨"c", "/r/c/c"⟩, ⟨"c", "/c/m"⟩]
          ∧ ∃ m ∈ Turn.moments doc (s.turns doc []),
            m.1.pathOf m.2.element = "/c/m"
              ∧ m.1.isAttached m.2.element = false) := by
  obtain ⟨doc, a, hdoc, ha, hremoved, hshown⟩ :=
    @exists_shownOf "<r><c><k/><c><k/><m/></c></c></r>" "c" "k"
      [⟨"c", "/r/c/c"⟩, ⟨"c", "/c/m"⟩] [("/r/c/c", true), ("/c/m", false)]
      (by decide +kernel)
  have hlast : ("/c/m", false) ∈ [("/r/c/c", true), ("/c/m", false)] := by
    simp
  rw [← hshown] at hlast
  obtain ⟨m, hm, hshown⟩ := List.mem_map.mp hlast
  obtain ⟨hpath, hattached⟩ := Prod.mk.inj hshown
  exact ⟨doc, a, hdoc, ha, hremoved, m, hm, hpath, hattached⟩

end Choices

end Overlay
