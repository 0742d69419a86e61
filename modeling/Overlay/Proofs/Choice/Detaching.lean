/-
What one choice takes out of a document.

# Turns

A selection looks for its containers once, and then goes through them, in
the document as the ones before have left it. Each has its turns: one for
every child that is taken out of it, or a single one that only says that
the option is missing (`Turn`). A child has one parent, and a container is
found once. So when a container is due, nobody has touched its children,
even if it is inside of something that is gone by then, and all turns of a
selection can be read off the document that it found (`Selection.turns`,
`Pruning.carryOut_eq`).

# What is left

Of the turns, only the children count for the document: it is the one that
the selection found, without them (`Selection.taken`). They are those that
the selection dooms, once each, and each has its line in the report
(`Choices.prune_detaches`).
-/
import Overlay.Proofs.Address.Walking
import Overlay.Proofs.Choice.Commuting

namespace Overlay

open Xml

/-- What is made of each member of a list and of those before it, with one
more member. -/
theorem mapIdx_take_concat {α β : Type} (f : List α → α → β)
    (xs : List α) (x : α) :
    (xs ++ [x]).mapIdx (fun i y => f ((xs ++ [x]).take i) y)
      = xs.mapIdx (fun i y => f (xs.take i) y) ++ [f xs x] := by
  rw [List.mapIdx_concat, List.take_left]
  refine congrArg (· ++ _) (List.mapIdx_eq_mapIdx_iff.mpr fun i hi => ?_)
  rw [List.take_append_of_le_length hi.le]

-- =============================================================== turns

/-- What a choice does to a container: a child is taken out of it, or it is
left as it is, because it has no child of the option's name. -/
structure Turn where
  key : String
  option : String
  container : Nat
  child : Option Nat
  deriving DecidableEq, Repr

namespace Turn

/-- The children that turns take out. -/
def children (ts : List Turn) : List Nat := ts.filterMap (·.child)

/-- The turns of a container. -/
def ofContainer (doc : Document) (key option : String) (container : Nat) :
    List Turn :=
  let children := doc.elementChildren container
  if children.any (Pruning.isOption doc option) then
    (children.filter (!Pruning.isOption doc option ·)).map
      fun child => ⟨key, option, container, some child⟩
  else [⟨key, option, container, none⟩]

/-- What a turn does. -/
def carryOut (p : Pruning) : Turn → Pruning
  | ⟨key, _, _, some child⟩ => p.remove key child
  | ⟨key, option, container, none⟩ =>
    let path := p.doc.pathOf container
    { p with
      remarks := p.remarks ++ [.optionMissing key path option]
      issues := p.issues
        ++ [⟨.choiceFailure, key, missingOptionText path option⟩] }

variable {doc : Document} {key option : String} {container x : Nat}

theorem children_append (ts us : List Turn) :
    children (ts ++ us) = children ts ++ children us :=
  List.filterMap_append

theorem mem_children {ts : List Turn} :
    x ∈ children ts ↔ ∃ t ∈ ts, t.child = some x :=
  List.mem_filterMap

/-- A turn of a container has its key and the container itself. -/
theorem of_mem_ofContainer {t : Turn}
    (h : t ∈ ofContainer doc key option container) :
    t.key = key ∧ t.container = container := by
  rw [ofContainer] at h
  split at h
  · obtain ⟨child, -, rfl⟩ := List.mem_map.mp h
    exact ⟨rfl, rfl⟩
  · rw [List.mem_singleton.mp h]
    exact ⟨rfl, rfl⟩

/-- In a container that has an option all other elements are taken out, and
else none. -/
theorem children_ofContainer :
    children (ofContainer doc key option container)
      = if (doc.elementChildren container).any (Pruning.isOption doc option)
        then (doc.elementChildren container).filter
          (!Pruning.isOption doc option ·)
        else [] := by
  rw [ofContainer]
  split
  · rw [children, List.filterMap_map]
    exact List.filterMap_some ..
  · rfl

/-- The children that are taken out of a container. -/
theorem mem_children_ofContainer :
    x ∈ children (ofContainer doc key option container)
      ↔ Selection.Takes doc option container x := by
  rw [children_ofContainer, Selection.Takes]
  split
  case isTrue h =>
      simp [List.any_eq_true.mp h]
  case isFalse h =>
      constructor
      · intro hx
        cases hx
      · rintro ⟨-, -, hkept⟩
        exact absurd (List.any_eq_true.mpr hkept) h

/-- Pruning a container is taking its turns. -/
theorem pruneContainer_eq (key option : String) (p : Pruning)
    (container : Nat) :
    p.pruneContainer key option container
      = (ofContainer p.doc key option container).foldl carryOut p := by
  rw [Pruning.pruneContainer, ofContainer]
  split
  · rw [List.foldl_map]
    rfl
  · rfl

-- ======================================================== taking turns

/-- The turns, each with the document that it finds. -/
def moments (doc : Document) (ts : List Turn) : List (Document × Turn) :=
  ts.mapIdx fun i t => (doc.detachAll (children (ts.take i)), t)

/-- The last turn sees the document without all that was taken out before. -/
theorem moments_concat (doc : Document) (ts : List Turn) (t : Turn) :
    moments doc (ts ++ [t])
      = moments doc ts ++ [(doc.detachAll (children ts), t)] := by
  exact mapIdx_take_concat (fun before t =>
    (doc.detachAll (children before), t)) ts t

/-- What is said of a child that is taken out. -/
def removal? : Document × Turn → Option Removal
  | (doc, t) => t.child.map fun child => ⟨t.key, doc.pathOf child⟩

/-- What is said of a container without the option. -/
def issue? : Document × Turn → Option Issue
  | (_, ⟨_, _, _, some _⟩) => none
  | (doc, ⟨key, option, container, none⟩) =>
    some ⟨.choiceFailure, key,
      missingOptionText (doc.pathOf container) option⟩

/-- One turn. -/
theorem carryOut_eq (p : Pruning) {t : Turn}
    (hroot : t.child ≠ some p.doc.root) :
    let q := t.carryOut p
    q.doc = p.doc.detachAll (children [t])
      ∧ q.resolver = p.resolver
      ∧ q.removed = p.removed ++ [(p.doc, t)].filterMap removal?
      ∧ q.issues = p.issues ++ [(p.doc, t)].filterMap issue? := by
  obtain ⟨key, option, container, child⟩ := t
  cases child with
  | none => exact ⟨rfl, rfl, (List.append_nil _).symm, rfl⟩
  | some child =>
      have hne : child ≠ p.doc.root := fun h => hroot (congrArg some h)
      dsimp only
      rw [show carryOut p _ = p.remove key child from rfl,
        Pruning.remove_eq key hne]
      exact ⟨rfl, rfl, rfl, (List.append_nil _).symm⟩

/-- Turn after turn. -/
theorem foldl_carryOut (p : Pruning) (hl : p.doc.Linked) {ts : List Turn}
    (hroot : p.doc.root ∉ children ts) :
    let q := ts.foldl carryOut p
    q.doc = p.doc.detachAll (children ts)
      ∧ q.resolver = p.resolver
      ∧ q.removed = p.removed ++ (moments p.doc ts).filterMap removal?
      ∧ q.issues = p.issues ++ (moments p.doc ts).filterMap issue? := by
  induction ts using List.reverseRecOn with
  | nil => exact ⟨rfl, rfl, (List.append_nil _).symm, (List.append_nil _).symm⟩
  | append_singleton ts t ih =>
      rw [children_append, List.mem_append, not_or] at hroot
      obtain ⟨hdoc, hresolver, hremoved, hissues⟩ := ih hroot.1
      have hkept := (Document.without_detachAll hl hroot.1).root
      have hchild : t.child ≠ some (ts.foldl carryOut p).doc.root := by
        rw [hdoc, hkept]
        exact fun h => hroot.2 (mem_children.mpr ⟨t, by simp, h⟩)
      obtain ⟨hdoc', hresolver', hremoved', hissues'⟩ := carryOut_eq _ hchild
      simp only [List.foldl_append, List.foldl_cons, List.foldl_nil]
      rw [hdoc', hresolver', hremoved', hissues', hdoc, hresolver, hremoved,
        hissues, moments_concat, List.filterMap_append, List.filterMap_append,
        children_append, Document.detachAll_append]
      exact ⟨rfl, rfl, List.append_assoc .., List.append_assoc ..⟩

-- ===================================================== many containers

/-- The turns of a container do not change before it is due: whatever is
gone by then is not a child of it. -/
theorem ofContainer_without {doc' : Document} {gone : List Nat}
    (h : doc.Without gone doc')
    (hfresh : ∀ x ∈ doc.elementChildren container, x ∉ gone) :
    ofContainer doc' key option container
      = ofContainer doc key option container := by
  have hchildren : doc'.elementChildren container
      = doc.elementChildren container := by
    rw [h.elementChildren]
    exact List.filter_eq_self.mpr fun x hx => by simpa using hfresh x hx
  rw [ofContainer, ofContainer, hchildren, Pruning.isOption_without h]

/-- The root is never taken out, as it is no child. -/
theorem root_not_mem_children (hl : doc.Linked) (key option : String)
    (containers : List Nat) :
    doc.root ∉ children
      (containers.flatMap (ofContainer doc key option)) := by
  intro hmem
  obtain ⟨t, ht, hchild⟩ := mem_children.mp hmem
  obtain ⟨c, -, ht⟩ := List.mem_flatMap.mp ht
  have htakes := mem_children_ofContainer.mp
    (mem_children.mpr ⟨t, ht, hchild⟩)
  have hparent := hl.parent?_of_mem_elementChildren htakes.1
  rw [hl.root] at hparent
  cases hparent

/-- Pruning containers is taking the turns that they had at first, even if
one of them is inside of something that another one loses. -/
theorem foldl_pruneContainer_eq (hl : doc.Linked) {containers : List Nat}
    (hnodup : containers.Nodup) {p : Pruning} {gone : List Nat}
    (h : doc.Without gone p.doc)
    (hfresh : ∀ c ∈ containers, ∀ x ∈ doc.elementChildren c, x ∉ gone) :
    containers.foldl (Pruning.pruneContainer key option) p
      = (containers.flatMap (ofContainer doc key option)).foldl
        carryOut p := by
  induction containers generalizing p gone with
  | nil => rfl
  | cons c rest ih =>
      obtain ⟨hc, hnodup⟩ := List.nodup_cons.mp hnodup
      rw [List.forall_mem_cons] at hfresh
      have hroot : doc.root ∉ children (ofContainer doc key option c) := by
        simpa using root_not_mem_children hl key option [c]
      rw [← h.root] at hroot
      have hlinked := h.linked hl
      obtain ⟨hdoc, -⟩ := foldl_carryOut p hlinked hroot
      have hwithout := h.trans (Document.without_detachAll hlinked hroot)
      rw [← hdoc] at hwithout
      rw [List.foldl_cons, List.flatMap_cons, List.foldl_append,
        pruneContainer_eq, ofContainer_without h hfresh.1]
      refine ih hnodup hwithout fun d hd x hx hmem => ?_
      rcases List.mem_append.mp hmem with hmem | hmem
      · -- a child has one parent
        have htakes := mem_children_ofContainer.mp hmem
        exact hc (hl.container_unique htakes.1 hx ▸ hd)
      · exact hfresh.2 d hd x hx hmem

end Turn

-- =========================================================== selections

namespace Selection

/-- The turns of a selection, in a document as it is. -/
def turns (s : Selection) (doc : Document) (aliases : Table String) :
    List Turn :=
  match s.selected with
  | none => []
  | some option =>
    (s.containers doc aliases).flatMap (Turn.ofContainer doc s.key option)

/-- What a selection takes out. -/
def taken (s : Selection) (doc : Document) (aliases : Table String) :
    List Nat :=
  Turn.children (s.turns doc aliases)

variable {s : Selection} {doc : Document} {aliases : Table String} {x : Nat}

/-- No container comes behind one that is inside of it, so it is pruned before
what is below. -/
theorem containers_descend (hl : doc.Linked) (s : Selection)
    (aliases : Table String) :
    (s.containers doc aliases).Pairwise fun x y => ¬ doc.Reaches y x :=
  ElementIndex.resolve_descends hl aliases s.target _

/-- A selection takes out what it dooms. -/
theorem mem_taken_iff : x ∈ s.taken doc aliases ↔ s.Dooms doc aliases x := by
  rw [taken, turns, Dooms]
  cases s.selected with
  | none => simp [Turn.children]
  | some option =>
      constructor
      · intro hx
        obtain ⟨t, ht, hchild⟩ := Turn.mem_children.mp hx
        obtain ⟨c, hc, ht⟩ := List.mem_flatMap.mp ht
        exact ⟨option, rfl, c, hc, Turn.mem_children_ofContainer.mp
          (Turn.mem_children.mpr ⟨t, ht, hchild⟩)⟩
      · rintro ⟨_, hsel, c, hc, htakes⟩
        cases hsel
        obtain ⟨t, ht, hchild⟩ := Turn.mem_children.mp
          (Turn.mem_children_ofContainer.mpr htakes)
        exact Turn.mem_children.mpr
          ⟨t, List.mem_flatMap.mpr ⟨c, hc, ht⟩, hchild⟩

theorem containers_nodup (hl : doc.Linked) (s : Selection)
    (aliases : Table String) : (s.containers doc aliases).Nodup := by
  refine (s.containers_descend hl aliases).imp ?_
  rintro x _ hbelow rfl
  exact hbelow .refl

theorem children_flatMap_ofContainer (key option : String)
    (containers : List Nat) :
    Turn.children (containers.flatMap (Turn.ofContainer doc key option))
      = containers.flatMap
        fun c => Turn.children (Turn.ofContainer doc key option c) :=
  List.filterMap_flatMap ..

/-- Nothing is taken out twice. -/
theorem taken_nodup (hl : doc.Linked) (s : Selection)
    (aliases : Table String) : (s.taken doc aliases).Nodup := by
  rw [taken, turns]
  cases s.selected with
  | none => exact List.nodup_nil
  | some option =>
      show (Turn.children (List.flatMap _ _)).Nodup
      rw [children_flatMap_ofContainer, List.nodup_flatMap]
      refine ⟨fun c _ => ?_, (s.containers_nodup hl aliases).imp
        fun {c d} hne x hx hx' => hne ?_⟩
      · rw [Turn.children_ofContainer]
        split
        · exact ((hl.nodup c).filter _).filter _
        · exact List.nodup_nil
      · have hc := (Turn.mem_children_ofContainer.mp hx).1
        have hd := (Turn.mem_children_ofContainer.mp hx').1
        exact hl.container_unique hc hd

theorem root_not_mem_taken (hl : doc.Linked) (s : Selection)
    (aliases : Table String) : doc.root ∉ s.taken doc aliases := by
  rw [taken, turns]
  cases s.selected with
  | none => exact List.not_mem_nil
  | some option => exact Turn.root_not_mem_children hl s.key option _

theorem key_of_mem_turns {t : Turn} (h : t ∈ s.turns doc aliases) :
    t.key = s.key := by
  rw [turns] at h
  split at h
  · cases h
  · obtain ⟨c, -, h⟩ := List.mem_flatMap.mp h
    exact (Turn.of_mem_ofContainer h).1

end Selection

namespace Pruning

/-- What a selection does. -/
theorem carryOut_eq (p : Pruning) (hl : p.doc.Linked)
    (hs : p.doc.Sound) (s : Selection) :
    let aliases := p.resolver.aliases
    let moments := Turn.moments p.doc (s.turns p.doc aliases)
    let q := p.carryOut s
    q.doc = p.doc.detachAll (s.taken p.doc aliases)
      ∧ q.resolver.aliases = aliases
      ∧ q.removed = p.removed ++ moments.filterMap Turn.removal?
      ∧ q.issues = p.issues ++ moments.filterMap Turn.issue? := by
  dsimp only
  rw [Selection.taken, Selection.turns]
  cases hsel : s.selected with
  | none =>
      rw [carryOut, hsel]
      exact ⟨rfl, rfl, (List.append_nil _).symm, (List.append_nil _).symm⟩
  | some option =>
      -- the answer is that of a resolver that was not used before
      have hfound : (PathResolver.resolve (.ofDocument p.doc) s.target
          p.resolver).1 = s.containers p.doc p.resolver.aliases :=
        resolve_answers_default _ _ _ _
      have hresolver : (PathResolver.resolve (.ofDocument p.doc) s.target
          p.resolver).2.aliases = p.resolver.aliases := rfl
      have hattached : (s.containers p.doc p.resolver.aliases).filter
          p.doc.isAttached = s.containers p.doc p.resolver.aliases :=
        List.filter_eq_self.mpr fun c hc =>
          Selection.isAttached_of_mem_containers hl hs hc
      have hnodup := s.containers_nodup hl p.resolver.aliases
      rw [carryOut, hsel]
      generalize PathResolver.resolve (.ofDocument p.doc) s.target p.resolver
        = found at hfound hresolver
      obtain ⟨found, resolver⟩ := found
      dsimp only at hfound hresolver ⊢
      rw [hfound, hattached]
      generalize s.containers p.doc p.resolver.aliases = containers at hnodup
      cases containers with
      | nil =>
          exact ⟨rfl, hresolver, (List.append_nil _).symm,
            (List.append_nil _).symm⟩
      | cons c rest =>
          dsimp only
          rw [Turn.foldl_pruneContainer_eq
            (p := { p with resolver := resolver }) hl hnodup (.refl _)
            (by simp)]
          obtain ⟨hdoc, hsame, hremoved, hissues⟩ :=
            Turn.foldl_carryOut { p with resolver := resolver } hl
              (Turn.root_not_mem_children hl s.key option (c :: rest))
          exact ⟨hdoc, hsame ▸ hresolver, hremoved, hissues⟩

/-- Selections leave a document as sound as it was, and read the same
prefixes throughout. -/
theorem foldl_carryOut_keeps (p : Pruning) (hl : p.doc.Linked)
    (hs : p.doc.Sound) (selections : List Selection) :
    let q := selections.foldl carryOut p
    q.doc.Linked ∧ q.doc.Sound ∧ q.resolver.aliases = p.resolver.aliases := by
  induction selections generalizing p with
  | nil => exact ⟨hl, hs, rfl⟩
  | cons s rest ih =>
      obtain ⟨hdoc, haliases, -⟩ := p.carryOut_eq hl hs s
      have hwithout := Document.without_detachAll hl
        (s.root_not_mem_taken hl p.resolver.aliases)
      rw [← hdoc] at hwithout
      rw [List.foldl_cons, ← haliases]
      exact ih _ (hwithout.linked hl) (hwithout.sound hs)

/-- What is said of elements that are taken out one after the other: each
line shows the path that the element has when it is its turn. -/
def removals (key : String) (doc : Document) (ids : List Nat) :
    List Removal :=
  ids.mapIdx fun i id => ⟨key, (doc.detachAll (ids.take i)).pathOf id⟩

/-- A removal is told with the path that the element has when it is taken
out. -/
theorem removals_concat (key : String) (doc : Document) (ids : List Nat)
    (id : Nat) :
    removals key doc (ids ++ [id])
      = removals key doc ids ++ [⟨key, (doc.detachAll ids).pathOf id⟩] := by
  exact mapIdx_take_concat (fun before id =>
    (⟨key, (doc.detachAll before).pathOf id⟩ : Removal)) ids id

/-- Only the turns that take out a child have a line. -/
theorem removals_moments {key : String} {ts : List Turn}
    (hkey : ∀ t ∈ ts, t.key = key) (doc : Document) :
    (Turn.moments doc ts).filterMap Turn.removal?
      = removals key doc (Turn.children ts) := by
  induction ts using List.reverseRecOn with
  | nil => rfl
  | append_singleton ts t ih =>
      obtain ⟨key', option, container, child⟩ := t
      have hlast : key' = key := hkey ⟨key', option, container, child⟩ (by simp)
      rw [Turn.moments_concat, List.filterMap_append, Turn.children_append,
        ih fun t ht => hkey t (List.mem_append_left _ ht)]
      cases child with
      | none =>
          rw [show Turn.children [⟨key', option, container, none⟩] = []
            from rfl, List.append_nil]
          exact List.append_nil _
      | some child =>
          rw [show Turn.children [⟨key', option, container, some child⟩]
            = [child] from rfl, removals_concat, ← hlast]
          rfl

end Pruning

namespace Choices

/-- One more selection. -/
theorem prune_concat {doc : Document} (hnew : doc.IsNew)
    (edits : List Edit) (c : Choices) (before : List Selection)
    (s : Selection) :
    let aliases := c.resolver.aliases
    let here := c.prune (doc.edited edits) before
    let next := c.prune (doc.edited edits) (before ++ [s])
    let found := here.2.1
    let moments := Turn.moments found (s.turns found aliases)
    found.Linked ∧ found.Sound
      ∧ next.2.1 = found.detachAll (s.taken found aliases)
      ∧ next.1.removed = here.1.removed ++ moments.filterMap Turn.removal?
      ∧ next.2.2.issues
        = here.2.2.issues ++ moments.filterMap Turn.issue? := by
  obtain ⟨hl, hs⟩ := hnew.linked_edited edits
  obtain ⟨hl, hs, haliases⟩ := Pruning.foldl_carryOut_keeps
    { doc := doc.edited edits, resolver := c.resolver } hl hs before
  obtain ⟨hdoc, -, hremoved, hissues⟩ := Pruning.carryOut_eq _ hl hs s
  rw [haliases] at hdoc hremoved hissues
  dsimp only
  rw [prune, prune, List.foldl_append]
  dsimp only [List.foldl_cons, List.foldl_nil]
  exact ⟨hl, hs, hdoc, hremoved, by rw [hissues, List.append_assoc]⟩

/-- The selections of a list are carried out in order, and whichever they
were before, the next one takes out of the document that it finds what it
dooms there, and nothing else: nodes are what they were, and have the
parents and children that they had, but for those that are taken out. Each
of them has one line in the report, in the order in which they go. -/
theorem prune_detaches {doc : Document} (hnew : doc.IsNew)
    (edits : List Edit) (c : Choices) (before : List Selection)
    (s : Selection) :
    let aliases := c.resolver.aliases
    let here := c.prune (doc.edited edits) before
    let next := c.prune (doc.edited edits) (before ++ [s])
    let found := here.2.1
    let left := next.2.1
    let taken := s.taken found aliases
    (∀ x, x ∈ taken ↔ s.Dooms found aliases x)
      ∧ taken.Nodup
      ∧ left = found.detachAll taken
      ∧ found.Without taken left
      ∧ ((∀ x, ¬ s.Dooms found aliases x) → left = found)
      ∧ next.1.removed
        = here.1.removed ++ Pruning.removals s.key found taken := by
  obtain ⟨hl, -, hdoc, hremoved, -⟩ := prune_concat hnew edits c before s
  rw [Pruning.removals_moments fun t => Selection.key_of_mem_turns] at hremoved
  dsimp only
  generalize c.prune (doc.edited edits) before = here at *
  have hwithout := Document.without_detachAll hl
    (s.root_not_mem_taken hl c.resolver.aliases)
  refine ⟨fun x => Selection.mem_taken_iff, s.taken_nodup hl _, hdoc,
    hdoc ▸ hwithout, fun hnone => ?_, hremoved⟩
  have htaken : s.taken here.2.1 c.resolver.aliases = [] :=
    List.eq_nil_iff_forall_not_mem.mpr fun x hx =>
      hnone x (Selection.mem_taken_iff.mp hx)
  rw [hdoc, htaken]
  rfl

/-- What a selection of this shape takes out. -/
def takenOf (text address option : String) : Option (List Nat) := do
  let doc ← Document.parse text
  let a ← (Address.parse address).toOption
  let s : Selection := ⟨address, a, .simple, some option⟩
  return s.taken doc []

/-- What a text, an address and an option come to is what is taken out of the
document that is read from the text. -/
theorem exists_takenOf {text address option : String} {ids : List Nat}
    (h : takenOf text address option = some ids) :
    ∃ doc a, Document.parse text = some doc ∧ Address.parse address = .ok a
      ∧ Selection.taken ⟨address, a, .simple, some option⟩ doc [] = ids := by
  simp only [takenOf, Option.bind_eq_bind, Option.bind_eq_some_iff,
    Option.pure_def, Option.some.injEq] at h
  obtain ⟨doc, hdoc, a, ha, hids⟩ := h
  exact ⟨doc, a, hdoc, toOption_eq_some_iff.mp ha, hids⟩

/-- A container inside of an element that the outer one loses still loses
its own child. -/
theorem prune_detaches_inside :
    ∃ doc a, Document.parse "<r><c><k/><c><k/><m/></c></c></r>" = some doc
      ∧ Address.parse "c" = .ok a
      ∧ (let s : Selection := ⟨"c", a, .simple, some "k"⟩
        let out := (default : Choices).prune doc [s]
        s.taken doc [] = [3, 5] ∧ out.2.1 = doc.detachAll [3, 5]
          ∧ out.1.removed = Pruning.removals "c" doc [3, 5]) := by
  obtain ⟨doc, a, hdoc, ha, htaken⟩ :=
    @exists_takenOf "<r><c><k/><c><k/><m/></c></c></r>" "c" "k" [3, 5]
      (by decide +kernel)
  obtain ⟨-, -, hleft, -, -, hremoved⟩ := prune_detaches (.inl ⟨_, hdoc⟩) []
    default [] ⟨"c", a, .simple, some "k"⟩
  rw [← htaken]
  exact ⟨doc, a, hdoc, ha, rfl, hleft, hremoved⟩

end Choices

end Overlay
