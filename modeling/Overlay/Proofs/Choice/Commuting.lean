/-
Choices in another order.

# What is taken out

Which elements a choice means to take out can be said of the document as
it was before all choices: the children of its containers that do not have
the option's name, where some child has it (`Selection.Dooms`).

# Why the order may matter

A choice looks for its containers in the document as the choices before
have left it. Names do not change there, but positions may: they count
the siblings of one local name. If a choice takes an element out and
keeps another one of its local name, which an option with a prefix can do
(`Selection.PartsNamesakes`), a position means another element from then
on (`prune_order_matters`).

# Why else it does not

Where that does not happen, and no two choices share a container, every
choice finds those of its containers that are still attached
(`Pruned.mem_found`), and takes out what it means to (`Pruned.carryOut`).
What is left are the elements that no choice dooms, on their whole way up
(`Pruned.isAttached_iff`): the order does not come up in this any more.
-/
import Overlay.Choice.Prune
import Overlay.Proofs.Address.Pointing
import Overlay.Proofs.Xml.Removing

namespace Overlay

open Xml

-- ============================================================= dooming

namespace Selection

/-- The containers of a selection, in a document as it is. -/
def containers (s : Selection) (doc : Document) (aliases : Table String) :
    List Nat :=
  (PathResolver.resolve (.ofDocument doc) s.target (.ofAliases aliases)).1

/-- Whether an option takes an element out of a container: it is not the
element's name, but that of another child. -/
def Takes (doc : Document) (option : String) (container x : Nat) : Prop :=
  x ∈ doc.elementChildren container
    ∧ Pruning.isOption doc option x = false
    ∧ ∃ kept ∈ doc.elementChildren container,
        Pruning.isOption doc option kept = true

/-- Whether a selection means to take an element out. -/
def Dooms (s : Selection) (doc : Document) (aliases : Table String)
    (x : Nat) : Prop :=
  ∃ option, s.selected = some option
    ∧ ∃ c ∈ s.containers doc aliases, Takes doc option c x

/-- Whether a selection means to take an element out of a container and to
keep another one of the same local name. -/
def PartsNamesakes (s : Selection) (doc : Document)
    (aliases : Table String) : Prop :=
  ∃ option, s.selected = some option
    ∧ ∃ c ∈ s.containers doc aliases, ∃ x, Takes doc option c x
      ∧ ∃ y ∈ doc.elementChildren c, Pruning.isOption doc option y = true
        ∧ doc.localName y = doc.localName x

/-- Whether no element is a container of both selections. -/
def Apart (doc : Document) (aliases : Table String) (s s' : Selection) :
    Prop :=
  ∀ n ∈ s.containers doc aliases, n ∉ s'.containers doc aliases

theorem Apart.symm {doc : Document} {aliases : Table String}
    {s s' : Selection} (h : Apart doc aliases s s') :
    Apart doc aliases s' s := fun n hn hn' => h n hn' hn

/-- An option without a colon is all of its namesakes. -/
theorem not_partsNamesakes {s : Selection} {doc : Document}
    {aliases : Table String}
    (h : ∀ option, s.selected = some option → ':' ∉ option.toList) :
    ¬ s.PartsNamesakes doc aliases := by
  rintro ⟨option, hsel, c, -, x, ⟨-, hx, -⟩, y, -, hy, hname⟩
  have hcolon := h option hsel
  simp only [Pruning.isOption, Bool.or_eq_false_iff, Bool.or_eq_true,
    beq_eq_false_iff_ne, beq_iff_eq] at hx hy
  rcases hy with hy | hy
  · exact hx.1 (hname ▸ hy)
  · obtain ⟨n, hn, hy⟩ := (Option.any_eq_true _ _).mp hy
    have hy := eq_of_beq hy
    cases hpre : n.nsPrefix with
    | none =>
        have hlocal : doc.localName y = option := by
          rw [← hy, Document.localName, hn, QName.qualified, hpre]
          rfl
        exact hx.1 (hname ▸ hlocal)
    | some p =>
        refine hcolon ?_
        rw [← hy, QName.qualified, hpre]
        simp

/-- Containers are attached. -/
theorem isAttached_of_mem_containers {doc : Document} (hl : doc.Linked)
    (hs : doc.Sound) {aliases : Table String} {s : Selection} {n : Nat}
    (hn : n ∈ s.containers doc aliases) : doc.isAttached n = true := by
  obtain ⟨e, he, rfl⟩ := ElementIndex.exists_entry_of_mem_resolve hn
  exact (ElementIndex.isOf_of_mem_entries hl hs.root he).attached

end Selection

-- ======================================================= one container

namespace Pruning

open Selection

variable {doc : Document} {gone : List Nat} {p : Pruning}

theorem isOption_without {doc' : Document} (h : doc.Without gone doc')
    (option : String) : isOption doc' option = isOption doc option := by
  funext i
  rw [isOption, isOption, h.localName, h.name?]

/-- Every element but the root can be taken out. -/
theorem remove_eq (key : String) {id : Nat} (hid : id ≠ p.doc.root) :
    p.remove key id
      = { p with
          doc := p.doc.detachAll [id]
          removed := p.removed ++ [⟨key, p.doc.pathOf id⟩] } := by
  rw [remove, Document.detach_eq_ok hid]

/-- Elements that are taken out one by one are gone from the tree, and the
resolver is what it was. -/
theorem foldl_remove (hl : p.doc.Linked) (key : String) {ids : List Nat}
    (hids : p.doc.root ∉ ids) :
    (ids.foldl (remove key) p).doc = p.doc.detachAll ids
      ∧ (ids.foldl (remove key) p).resolver = p.resolver := by
  induction ids generalizing p with
  | nil => exact ⟨rfl, rfl⟩
  | cons id rest ih =>
      obtain ⟨hne, hrest⟩ := not_or.mp (List.mem_cons.not.mp hids)
      have hone : p.doc.Without [id] (p.doc.detachAll [id]) :=
        Document.without_detachAll hl (by simpa using hne)
      rw [List.foldl_cons, remove_eq key (Ne.symm hne)]
      exact ih (hone.linked hl) (by rwa [hone.root])

/-- Pruning a container from which no option is gone takes out what the
option takes out of it. -/
theorem pruneContainer_without (hl : doc.Linked)
    (h : doc.Without gone p.doc) (key option : String) (container : Nat)
    (hkeep : ∀ kept ∈ doc.elementChildren container,
      isOption doc option kept = true → kept ∉ gone) :
    ∃ gone', doc.Without gone'
        (pruneContainer key option p container).doc
      ∧ (pruneContainer key option p container).resolver = p.resolver
      ∧ ∀ x, x ∈ gone' ↔ x ∈ gone ∨ Takes doc option container x := by
  have hchild : ∀ x, x ∈ p.doc.elementChildren container
      ↔ x ∈ doc.elementChildren container ∧ x ∉ gone := by
    intro x
    rw [h.elementChildren, List.mem_filter, decide_eq_true_iff]
  have hany : (p.doc.elementChildren container).any (isOption doc option)
        = true ↔ ∃ kept ∈ doc.elementChildren container,
          isOption doc option kept = true := by
    rw [List.any_eq_true]
    constructor
    · exact fun ⟨k, hk, hopt⟩ => ⟨k, ((hchild k).mp hk).1, hopt⟩
    · exact fun ⟨k, hk, hopt⟩ =>
        ⟨k, (hchild k).mpr ⟨hk, hkeep k hk hopt⟩, hopt⟩
  rw [pruneContainer, isOption_without h]
  split
  case isTrue hopt =>
      have hroot : p.doc.root ∉ (p.doc.elementChildren container).filter
          (!isOption doc option ·) := fun hmem => by
        have hmem := ((hchild _).mp (List.mem_of_mem_filter hmem)).1
        have := (hl.child _ _ (List.mem_of_mem_filter hmem)).1
        rw [h.root, hl.root] at this
        cases this
      have hlinked := h.linked hl
      obtain ⟨hdoc, hresolver⟩ := foldl_remove hlinked key hroot
      refine ⟨_, hdoc ▸ h.trans (Document.without_detachAll hlinked hroot),
        hresolver, fun x => ?_⟩
      rw [List.mem_append, List.mem_filter, hchild, Bool.not_eq_true']
      have hkept := hany.mp hopt
      by_cases hx : x ∈ gone
      · simp [hx]
      · simp [hx, Takes, hkept]
  case isFalse hopt =>
      have hkept := hany.not.mp hopt
      exact ⟨gone, h, rfl, fun x => (or_iff_left fun ht => hkept ht.2.2).symm⟩

/-- Pruning containers from which no option is gone. -/
theorem foldl_pruneContainer_without (hl : doc.Linked)
    (key option : String) {containers : List Nat}
    (h : doc.Without gone p.doc)
    (hkeep : ∀ c ∈ containers, ∀ kept ∈ doc.elementChildren c,
      isOption doc option kept = true → kept ∉ gone) :
    ∃ gone', doc.Without gone'
        (containers.foldl (pruneContainer key option) p).doc
      ∧ (containers.foldl (pruneContainer key option) p).resolver
        = p.resolver
      ∧ ∀ x, x ∈ gone' ↔ x ∈ gone ∨ ∃ c ∈ containers, Takes doc option c x := by
  induction containers generalizing p gone with
  | nil => exact ⟨gone, h, rfl, by simp⟩
  | cons c rest ih =>
      rw [List.forall_mem_cons] at hkeep
      obtain ⟨gone₁, hdoc₁, hresolver₁, hgone₁⟩ :=
        pruneContainer_without hl h key option c hkeep.1
      -- an option is never among what was taken out
      have hkeep₁ : ∀ d ∈ rest, ∀ kept ∈ doc.elementChildren d,
          isOption doc option kept = true → kept ∉ gone₁ := by
        intro d hd kept hkept hopt hmem
        rcases (hgone₁ kept).mp hmem with hmem | ht
        · exact hkeep.2 d hd kept hkept hopt hmem
        · rw [ht.2.1] at hopt
          cases hopt
      obtain ⟨gone₂, hdoc₂, hresolver₂, hgone₂⟩ := ih hdoc₁ hkeep₁
      refine ⟨gone₂, hdoc₂, hresolver₂.trans hresolver₁, fun x => ?_⟩
      rw [hgone₂, hgone₁, List.exists_mem_cons_iff, or_assoc]

/-- A decided selection prunes the containers it finds. -/
theorem carryOut_selected (p : Pruning) {s : Selection} {option : String}
    (hsel : s.selected = some option) :
    let found := PathResolver.resolve (.ofDocument p.doc) s.target p.resolver
    let pruned := (found.1.filter p.doc.isAttached).foldl
      (pruneContainer s.key option) { p with resolver := found.2 }
    (p.carryOut s).doc = pruned.doc
      ∧ (p.carryOut s).resolver = pruned.resolver := by
  rw [carryOut, hsel]
  generalize PathResolver.resolve (.ofDocument p.doc) s.target p.resolver
    = found
  obtain ⟨found, resolver⟩ := found
  dsimp only
  split
  case h_1 hnone =>
      rw [hnone]
      exact ⟨rfl, rfl⟩
  case h_2 => exact ⟨rfl, rfl⟩

end Pruning

-- ======================================================= one selection

/-- How far choices are carried out: `gone` are the nodes that were taken
out. All of them were doomed, and nothing that was doomed is attached. -/
structure Pruned (doc : Document) (aliases : Table String)
    (done : List Selection) (p : Pruning) (gone : List Nat) : Prop where
  without : doc.Without gone p.doc
  resolver : p.resolver.aliases = aliases
  doomed : ∀ x ∈ gone, ∃ s ∈ done, s.Dooms doc aliases x
  complete : ∀ s ∈ done, ∀ x, s.Dooms doc aliases x →
    p.doc.isAttached x = false

namespace Pruned

variable {doc : Document} {aliases : Table String}
  {done : List Selection} {p : Pruning} {gone : List Nat}

theorem start (doc : Document) (resolver : PathResolver) :
    Pruned doc resolver.aliases [] { doc := doc, resolver := resolver } [] :=
  ⟨.refl doc, rfl, by simp, by simp⟩

/-- The root is nobody's child, so it is not doomed. -/
theorem root_not_mem (hl : doc.Linked)
    (hdoomed : ∀ x ∈ gone, ∃ s ∈ done, s.Dooms doc aliases x) :
    doc.root ∉ gone := fun hmem => by
  obtain ⟨s, -, option, -, c, -, ht⟩ := hdoomed _ hmem
  have := hl.parent?_of_mem_elementChildren ht.1
  rw [hl.root] at this
  cases this

/-- What is attached is all that is not behind a node that is gone. -/
theorem isAttached_iff_gone (h : Pruned doc aliases done p gone)
    (hl : doc.Linked) {i : Nat} :
    p.doc.isAttached i = true
      ↔ doc.isAttached i = true ∧ ∀ a ∈ doc.lineage i, a ∉ gone :=
  h.without.isAttached_iff hl (root_not_mem hl h.doomed)

/-- An element that is still attached is not doomed. -/
theorem not_dooms (h : Pruned doc aliases done p gone) {x : Nat}
    (hx : p.doc.isAttached x = true) {s : Selection} (hs : s ∈ done) :
    ¬ s.Dooms doc aliases x := fun hd => by
  rw [h.complete s hs x hd] at hx
  cases hx

/-- What is attached are the elements that no choice dooms, on their whole
way up. -/
theorem isAttached_iff (h : Pruned doc aliases done p gone)
    (hl : doc.Linked) {i : Nat} :
    p.doc.isAttached i = true ↔ doc.isAttached i = true
      ∧ ∀ a ∈ doc.lineage i, ∀ s ∈ done, ¬ s.Dooms doc aliases a := by
  constructor
  · intro hi
    refine ⟨((h.isAttached_iff_gone hl).mp hi).1, ?_⟩
    refine (h.without.linked hl).attached_induct
      (P := fun i => ∀ a ∈ doc.lineage i, ∀ s ∈ done,
        ¬ s.Dooms doc aliases a) ?_ (fun i q hq hattached ih => ?_) hi
    · rw [h.without.root, Document.lineage_of_none hl.root]
      intro a ha s hs
      rw [List.mem_singleton.mp ha, ← h.without.root]
      exact h.not_dooms (h.without.linked hl).isAttached_root hs
    · have hparent := (h.without.parent?_eq_some_iff.mp hq).2
      rw [hl.lineage_of_parent hparent, List.forall_mem_cons]
      refine ⟨fun s hs => h.not_dooms ?_ hs, ih⟩
      exact ((h.without.linked hl).isAttached_of_parent hq).mpr hattached
  · rintro ⟨hi, hline⟩
    refine (h.isAttached_iff_gone hl).mpr ⟨hi, fun a ha hgone => ?_⟩
    obtain ⟨s, hs, hd⟩ := h.doomed a hgone
    exact hline a ha s hs hd

/-- Where no choice parts namesakes, the siblings of an element that is
still attached are gone only if they have other names. -/
theorem localName_ne_of_gone (h : Pruned doc aliases done p gone)
    (hl : doc.Linked)
    (hparts : ∀ s ∈ done, ¬ s.PartsNamesakes doc aliases) {a c x : Nat}
    (hmem : a ∈ doc.elementChildren c) (ha : p.doc.isAttached a = true)
    (hx : x ∈ doc.elementChildren c) (hgone : x ∈ gone) :
    doc.localName x ≠ doc.localName a := by
  intro hname
  obtain ⟨s, hs, option, hsel, d, hd, ht⟩ := h.doomed x hgone
  obtain rfl : c = d := hl.container_unique hx ht.1
  cases hopt : Pruning.isOption doc option a with
  | true =>
      exact hparts s hs ⟨option, hsel, c, hd, x, ht, a, hmem, hopt, hname.symm⟩
  | false => exact h.not_dooms ha hs ⟨option, hsel, c, hd, hmem, hopt, ht.2.2⟩

/-- Where no choice parts namesakes, an element that is still attached has
its old position. -/
theorem position (h : Pruned doc aliases done p gone) (hl : doc.Linked)
    (hparts : ∀ s ∈ done, ¬ s.PartsNamesakes doc aliases) {a : Nat}
    (hel : doc.isElement a = true) (ha : p.doc.isAttached a = true) :
    p.doc.position a = doc.position a := by
  cases hp : p.doc.parent? a with
  | none =>
      have hroot := (Document.isAttached_of_none hp).mp ha
      rw [h.without.root] at hroot
      rw [Document.position, hp, Document.position, hroot, hl.root]
  | some c =>
      obtain ⟨hgone, hparent⟩ := h.without.parent?_eq_some_iff.mp hp
      have hmem : a ∈ doc.elementChildren c :=
        List.mem_filter.mpr ⟨hl.mem_children_iff.mpr hparent, hel⟩
      have hbefore : (p.doc.elementChildren c).takeWhile (· != a)
          = ((doc.elementChildren c).takeWhile (· != a)).filter
            (· ∉ gone) := by
        have hstop : (fun x => !decide (x ∉ gone) || x != a)
            = fun x => x != a := by
          funext x
          by_cases hx : x = a <;> simp [hx, hgone]
        rw [h.without.elementChildren, List.takeWhile_filter, hstop]
      have hnames : p.doc.localName = doc.localName :=
        funext h.without.localName
      rw [Document.position, hp, Document.position, hparent]
      simp only [hnames, hbefore, List.countP_filter]
      -- whoever is gone was not counted
      refine congrArg (· + 1) (List.countP_congr fun x hx => ?_)
      have hx := List.takeWhile_subset _ hx
      by_cases hxgone : x ∈ gone
      · simp [hxgone, h.localName_ne_of_gone hl hparts hmem ha hx hxgone]
      · simp [hxgone]

/-- To an address without positions, or where no choice parts namesakes,
the elements that are still attached are what they were. -/
theorem sameTo (h : Pruned doc aliases done p gone) (hl : doc.Linked)
    {a : Address}
    (hfree : a.IsFree ∨ ∀ s ∈ done, ¬ s.PartsNamesakes doc aliases)
    {n : Nat} (hel : doc.isElement n = true)
    (hn : p.doc.isAttached n = true) : a.SameTo doc p.doc n := by
  have hname := fun i => h.without.name? i
  have hline : p.doc.lineage n = doc.lineage n := h.without.lineage hl hn
  have hlink : ∀ i, (p.doc.link i).unplaced = (doc.link i).unplaced := by
    intro i
    simp only [Document.link, Link.unplaced, ElementIndex.qualifiedName,
      h.without.localName, hname]
  refine ⟨?_, hfree.imp_right fun hparts => ?_, ?_, hname n⟩
  · rw [Document.chain, Document.chain, hline, List.map_map, List.map_map]
    exact List.map_congr_left fun i _ => hlink i
  · -- all elements on the way up are attached, and keep their positions
    have hline' : ∀ i ∈ doc.lineage n,
        doc.isElement i = true ∧ p.doc.isAttached i = true := by
      rw [← hline]
      intro i hi
      obtain ⟨hattached, rfl | hup⟩ :=
        (h.without.linked hl).of_mem_lineage hn i hi
      · exact ⟨hel, hattached⟩
      · exact ⟨h.without.isElement i ▸ hup, hattached⟩
    rw [Document.chain, Document.chain, hline]
    refine List.map_congr_left fun i hi => ?_
    obtain ⟨hel, hattached⟩ := hline' i (List.mem_reverse.mp hi)
    have hposition := h.position hl hparts hel hattached
    simp only [Document.link, ElementIndex.qualifiedName,
      h.without.localName, hname, hposition]
  · rw [Document.uri?, Document.uri?, h.without.element?]

/-- A choice finds those of its containers that are still attached. -/
theorem mem_found {text : String} (hdoc : Document.parse text = some doc)
    (h : Pruned doc aliases done p gone) {s : Selection} {address : String}
    (hread : Address.parse address = .ok s.target)
    (hfree : s.target.IsFree
      ∨ ∀ s ∈ done, ¬ s.PartsNamesakes doc aliases) {n : Nat} :
    n ∈ (PathResolver.resolve (.ofDocument p.doc) s.target p.resolver).1
      ↔ p.doc.isAttached n = true ∧ n ∈ s.containers doc aliases := by
  have hl := Document.linked_of_parse hdoc
  have hs := Document.sound_of_parse hdoc
  have hspelled : ∀ id kind, p.doc.kind? id = some kind → kind.Spelled :=
    fun id kind hk => kind_of_parse hdoc (h.without.kind? id ▸ hk)
  have hhere : n ∈ (PathResolver.resolve (.ofDocument p.doc) s.target
      p.resolver).1 ↔ _ :=
    mem_resolve_iff (h.without.linked hl) (h.without.sound hs) hspelled hread
  have hthere : n ∈ s.containers doc aliases ↔ _ :=
    mem_resolve_iff hl hs (fun _ _ => kind_of_parse hdoc) hread
  rw [hhere, hthere, h.resolver, h.without.isElement]
  constructor
  · rintro ⟨hel, hn, hpoints⟩
    have hsame := h.sameTo hl hfree hel hn
    exact ⟨hn, hel, ((h.isAttached_iff_gone hl).mp hn).1,
      Address.pointsTo_congr hsame aliases ▸ hpoints⟩
  · rintro ⟨hn, hel, -, hpoints⟩
    have hsame := h.sameTo hl hfree hel hn
    exact ⟨hel, hn, Address.pointsTo_congr hsame aliases ▸ hpoints⟩

/-- A decided choice takes out what its option takes out of the containers
that are still attached. -/
theorem carryOut_takes {text : String}
    (hdoc : Document.parse text = some doc)
    (h : Pruned doc aliases done p gone) {s : Selection}
    {address option : String} (hread : Address.parse address = .ok s.target)
    (hfree : s.target.IsFree ∨ ∀ s ∈ done, ¬ s.PartsNamesakes doc aliases)
    (hapart : ∀ s' ∈ done, Selection.Apart doc aliases s' s)
    (hsel : s.selected = some option) :
    ∃ gone', doc.Without gone' (p.carryOut s).doc
      ∧ (p.carryOut s).resolver.aliases = aliases
      ∧ ∀ x, x ∈ gone' ↔ x ∈ gone
        ∨ ∃ c ∈ s.containers doc aliases, p.doc.isAttached c = true
          ∧ Selection.Takes doc option c x := by
  have hl := Document.linked_of_parse hdoc
  have hfound := fun n => @mem_found _ _ _ _ _ _ hdoc h _ _ hread hfree n
  obtain ⟨hresult, hresolver⟩ := Pruning.carryOut_selected p hsel
  generalize (PathResolver.resolve (.ofDocument p.doc) s.target
    p.resolver).1 = found at hfound hresult hresolver
  have hcontainer : ∀ c, c ∈ found.filter p.doc.isAttached
      ↔ c ∈ s.containers doc aliases ∧ p.doc.isAttached c = true := by
    intro c
    rw [List.mem_filter, hfound]
    exact ⟨fun hc => ⟨hc.1.2, hc.2⟩, fun hc => ⟨⟨hc.2, hc.1⟩, hc.2⟩⟩
  -- what the choices before have taken out was in other containers
  have hkeep : ∀ c ∈ found.filter p.doc.isAttached,
      ∀ kept ∈ doc.elementChildren c,
        Pruning.isOption doc option kept = true → kept ∉ gone := by
    intro c hc kept hkept _ hgone
    obtain ⟨t, ht, _, -, d, hd, htakes⟩ := h.doomed kept hgone
    obtain rfl : c = d := hl.container_unique hkept htakes.1
    exact hapart t ht c hd ((hcontainer c).mp hc).1
  obtain ⟨gone', hwithout, hsame, hgone⟩ :=
    Pruning.foldl_pruneContainer_without hl s.key option
      (p := { p with resolver := (PathResolver.resolve
        (.ofDocument p.doc) s.target p.resolver).2 }) h.without hkeep
  rw [← hresult] at hwithout
  refine ⟨gone', hwithout, ?_, fun x => ?_⟩
  · rw [hresolver, hsame]
    exact h.resolver
  · simp only [hgone, hcontainer, and_assoc]

/-- Taking that out, one more choice is carried out. -/
theorem extend (h : Pruned doc aliases done p gone) (hl : doc.Linked)
    {s : Selection} {option : String} (hsel : s.selected = some option)
    {q : Pruning} {gone' : List Nat} (hwithout : doc.Without gone' q.doc)
    (hresolver : q.resolver.aliases = aliases)
    (hgone : ∀ x, x ∈ gone' ↔ x ∈ gone
      ∨ ∃ c ∈ s.containers doc aliases, p.doc.isAttached c = true
        ∧ Selection.Takes doc option c x) :
    Pruned doc aliases (done ++ [s]) q gone' := by
  have hdoomed : ∀ x ∈ gone', ∃ t ∈ done ++ [s], t.Dooms doc aliases x := by
    intro x hx
    rcases (hgone x).mp hx with hx | ⟨c, hc, -, htakes⟩
    · obtain ⟨t, ht, hd⟩ := h.doomed x hx
      exact ⟨t, List.mem_append_left _ ht, hd⟩
    · exact ⟨s, by simp, option, hsel, c, hc, htakes⟩
  refine ⟨hwithout, hresolver, hdoomed, fun t ht x hd => ?_⟩
  by_contra hx
  rw [Bool.not_eq_false,
    hwithout.isAttached_iff hl (root_not_mem hl hdoomed)] at hx
  -- the way up from `x` was complete before
  have hbefore : ∀ i, doc.isAttached i = true →
      (∀ a ∈ doc.lineage i, a ∉ gone') → p.doc.isAttached i = true :=
    fun i hi hline => (h.isAttached_iff_gone hl).mpr
      ⟨hi, fun a ha hmem => hline a ha ((hgone a).mpr (.inl hmem))⟩
  rcases List.mem_append.mp ht with ht | ht
  · exact h.not_dooms (hbefore x hx.1 hx.2) ht hd
  · rw [List.mem_singleton.mp ht] at hd
    obtain ⟨option', hsel', c, hc, htakes⟩ := hd
    obtain rfl := Option.some.inj (hsel.symm.trans hsel')
    have hparent := hl.parent?_of_mem_elementChildren htakes.1
    rw [hl.isAttached_of_parent hparent, hl.lineage_of_parent hparent,
      List.forall_mem_cons] at hx
    exact hx.2.1 ((hgone x).mpr
      (.inr ⟨c, hc, hbefore c hx.1 hx.2.2, htakes⟩))

/-- Carrying out one more choice, which shares no container with those
before. -/
theorem carryOut {text : String} (hdoc : Document.parse text = some doc)
    (h : Pruned doc aliases done p gone) {s : Selection} {address : String}
    (hread : Address.parse address = .ok s.target)
    (hfree : s.target.IsFree ∨ ∀ s ∈ done, ¬ s.PartsNamesakes doc aliases)
    (hapart : ∀ s' ∈ done, Selection.Apart doc aliases s' s) :
    ∃ gone', Pruned doc aliases (done ++ [s]) (p.carryOut s) gone' := by
  cases hsel : s.selected with
  | none =>
      have hnone : ∀ x, ¬ s.Dooms doc aliases x := by
        rintro x ⟨option, hoption, -⟩
        rw [hsel] at hoption
        cases hoption
      rw [Pruning.carryOut, hsel]
      refine ⟨gone, h.without, h.resolver, fun x hx => ?_, fun t ht x hd => ?_⟩
      · obtain ⟨t, ht, hd⟩ := h.doomed x hx
        exact ⟨t, List.mem_append_left _ ht, hd⟩
      · rcases List.mem_append.mp ht with ht | ht
        · exact h.complete t ht x hd
        · exact absurd (List.mem_singleton.mp ht ▸ hd) (hnone x)
  | some option =>
      obtain ⟨gone', hwithout, hresolver, hgone⟩ :=
        h.carryOut_takes hdoc hread hfree hapart hsel
      exact ⟨gone', h.extend (Document.linked_of_parse hdoc) hsel hwithout
        hresolver hgone⟩

/-- Carrying out choices that share no container. -/
theorem foldl_carryOut {text : String}
    (hdoc : Document.parse text = some doc)
    (h : Pruned doc aliases done p gone) {selections : List Selection}
    (hread : ∀ s ∈ selections, ∃ address, Address.parse address = .ok s.target)
    (hplaces : (∀ s ∈ selections, s.target.IsFree)
      ∨ ∀ s ∈ done ++ selections, ¬ s.PartsNamesakes doc aliases)
    (hapart : (done ++ selections).Pairwise (Selection.Apart doc aliases)) :
    ∃ gone', Pruned doc aliases (done ++ selections)
      (selections.foldl Pruning.carryOut p) gone' := by
  induction selections generalizing done p gone with
  | nil => exact ⟨gone, (List.append_nil done).symm ▸ h⟩
  | cons s rest ih =>
      obtain ⟨⟨address, hs⟩, hrest⟩ := List.forall_mem_cons.mp hread
      have hfree : s.target.IsFree
          ∨ ∀ s ∈ done, ¬ s.PartsNamesakes doc aliases :=
        hplaces.imp (· s (List.mem_cons_self ..))
          fun h t ht => h t (List.mem_append_left _ ht)
      have hbefore : ∀ s' ∈ done, Selection.Apart doc aliases s' s :=
        fun s' hs' => (List.pairwise_append.mp hapart).2.2 s' hs' s
          (List.mem_cons_self ..)
      obtain ⟨gone₁, h₁⟩ := h.carryOut hdoc hs hfree hbefore
      rw [List.append_cons] at hplaces hapart ⊢
      exact ih h₁ hrest
        (hplaces.imp_left fun h t ht => h t (List.mem_cons_of_mem s ht)) hapart

/-- Below a node that is still attached, or never was, exactly what is
doomed is gone. -/
theorem mem_gone_iff (h : Pruned doc aliases done p gone) (hl : doc.Linked)
    (hs : doc.Sound) {i c : Nat} (hc : c ∈ doc.children i)
    (hi : p.doc.isAttached i = true ∨ doc.isAttached i = false) :
    c ∈ gone ↔ ∃ s ∈ done, s.Dooms doc aliases c := by
  refine ⟨h.doomed c, fun ⟨s, hs', hd⟩ => ?_⟩
  have hparent := (hl.child i c hc).1
  rcases hi with hi | hi
  · by_contra hgone
    have hp := h.without.parent?_eq_some_iff.mpr ⟨hgone, hparent⟩
    exact h.not_dooms
      (((h.without.linked hl).isAttached_of_parent hp).mpr hi) hs' hd
  · obtain ⟨_, -, d, hmem, htakes⟩ := hd
    obtain rfl : i = d := Option.some.inj (hparent.symm.trans
      (hl.parent?_of_mem_elementChildren htakes.1))
    rw [Selection.isAttached_of_mem_containers hl hs hmem] at hi
    cases hi

/-- A node that is still attached, or that never had a parent, has its old
parent. -/
theorem parent?_eq (h : Pruned doc aliases done p gone) (hl : doc.Linked)
    {i : Nat}
    (hi : p.doc.isAttached i = true ∨ doc.parent? i = none) :
    p.doc.parent? i = doc.parent? i := by
  rw [h.without.parent?]
  rcases hi with hi | hnone
  · have hline := ((h.isAttached_iff_gone hl).mp hi).2
    rw [if_neg (hline i (doc.mem_lineage_self i))]
  · rw [hnone, ite_self]

/-- A node beside the root is attached to it only if it is the root. -/
theorem attached_or_outside {text : String}
    (hdoc : Document.parse text = some doc)
    (h : Pruned doc aliases done p gone) {i : Nat}
    (hi : p.doc.isAttached i = true
      ∨ i ∈ p.doc.prolog ∨ i ∈ p.doc.epilog) :
    p.doc.isAttached i = true
      ∨ doc.isAttached i = false ∧ doc.parent? i = none := by
  have hl := Document.linked_of_parse hdoc
  rw [h.without.prolog, h.without.epilog] at hi
  rcases hi with hi | hi
  · exact .inl hi
  · have hnone := Document.parent?_outside hdoc hi
    cases hroot : doc.isAttached i with
    | false => exact .inr ⟨rfl, hnone⟩
    | true =>
        rw [(Document.isAttached_of_none hnone).mp hroot, ← h.without.root]
        exact .inl (h.without.linked hl).isAttached_root

/-- The same choices, carried out in two orders. -/
theorem sameTree {text : String} (hdoc : Document.parse text = some doc)
    {done' : List Selection} {q : Pruning} {gone' : List Nat}
    (hp : Pruned doc aliases done p gone)
    (hq : Pruned doc aliases done' q gone')
    (hsame : ∀ s, s ∈ done ↔ s ∈ done') : p.doc.SameTree q.doc := by
  have hl := Document.linked_of_parse hdoc
  have hs := Document.sound_of_parse hdoc
  have hattached : ∀ i, q.doc.isAttached i = p.doc.isAttached i := by
    intro i
    rw [Bool.eq_iff_iff, hp.isAttached_iff hl, hq.isAttached_iff hl]
    simp only [hsame]
  refine ⟨hq.without.root.trans hp.without.root.symm,
    hq.without.prolog.trans hp.without.prolog.symm,
    hq.without.epilog.trans hp.without.epilog.symm, hattached,
    fun i hi => ?_⟩
  have hi := hp.attached_or_outside hdoc hi
  have hi' := hattached i ▸ hi
  refine Document.node_ext ?_ ?_ ?_
  · rw [hq.without.kind?, hp.without.kind?]
  · rw [hq.parent?_eq hl (hi'.imp_right (·.2)),
      hp.parent?_eq hl (hi.imp_right (·.2))]
  · rw [hq.without.children, hp.without.children]
    refine List.filter_congr fun c hc => ?_
    have hgone := hp.mem_gone_iff hl hs hc (hi.imp_right (·.1))
    have hgone' := hq.mem_gone_iff hl hs hc (hi'.imp_right (·.1))
    simp only [← hsame] at hgone'
    rw [decide_eq_decide, hgone, hgone']

end Pruned

namespace Choices

/-- If no two selections share a container, and positions mean the same
throughout, all orders leave the same tree: no address gives a position, or
no selection takes out a namesake of an element that it keeps. What is left
are the elements that no selection dooms, on their whole way up. -/
theorem prune_perm {text : String} {doc : Document}
    (hdoc : Document.parse text = some doc) (c : Choices)
    {selections selections' : List Selection}
    (hperm : selections.Perm selections')
    (hread : ∀ s ∈ selections, ∃ address, Address.parse address = .ok s.target)
    (hapart : selections.Pairwise (Selection.Apart doc c.resolver.aliases))
    (hplaces : (∀ s ∈ selections, s.target.IsFree)
      ∨ ∀ s ∈ selections, ¬ s.PartsNamesakes doc c.resolver.aliases) :
    let out := (c.prune doc selections).2.1
    out.SameTree (c.prune doc selections').2.1
      ∧ ∀ i, out.isAttached i = true ↔ doc.isAttached i = true
        ∧ ∀ a ∈ doc.lineage i, ∀ s ∈ selections,
          ¬ s.Dooms doc c.resolver.aliases a := by
  have hsame : ∀ s, s ∈ selections ↔ s ∈ selections' := fun s => hperm.mem_iff
  have hapart' := (hperm.pairwise_iff Selection.Apart.symm).mp hapart
  obtain ⟨gone, hp⟩ := (Pruned.start doc c.resolver).foldl_carryOut hdoc
    hread hplaces hapart
  simp only [hsame] at hread hplaces
  obtain ⟨gone', hq⟩ := (Pruned.start doc c.resolver).foldl_carryOut hdoc
    hread hplaces hapart'
  exact ⟨hp.sameTree hdoc hq hsame,
    fun i => hp.isAttached_iff (Document.linked_of_parse hdoc)⟩

/-- Two selections of this shape, and a node: the containers of each, and
whether the node is attached after both, in one order and in the other. -/
def inBothOrders (text : String) (first second : String × String)
    (node : Nat) : Option (List Nat × List Nat × Bool × Bool) := do
  let doc ← Document.parse text
  let a ← (Address.parse first.1).toOption
  let b ← (Address.parse second.1).toOption
  let s : Selection := ⟨first.1, a, .pathSpecific, some first.2⟩
  let s' : Selection := ⟨second.1, b, .pathSpecific, some second.2⟩
  return (s.containers doc [], s'.containers doc [],
    ((default : Choices).prune doc [s, s']).2.1.isAttached node,
    ((default : Choices).prune doc [s', s]).2.1.isAttached node)

/-- What is computed for a text and two selections is what they leave in the
one order and in the other. -/
theorem exists_inBothOrders {text : String} {first second : String × String}
    {node : Nat} {xs ys : List Nat} {x y : Bool}
    (h : inBothOrders text first second node = some (xs, ys, x, y)) :
    ∃ doc a b, Document.parse text = some doc
      ∧ Address.parse first.1 = .ok a ∧ Address.parse second.1 = .ok b
      ∧ (let s : Selection := ⟨first.1, a, .pathSpecific, some first.2⟩
        let s' : Selection := ⟨second.1, b, .pathSpecific, some second.2⟩
        s.containers doc [] = xs ∧ s'.containers doc [] = ys
          ∧ ((default : Choices).prune doc [s, s']).2.1.isAttached node = x
          ∧ ((default : Choices).prune doc [s', s]).2.1.isAttached node
            = y) := by
  simp only [inBothOrders, Option.bind_eq_bind, Option.bind_eq_some_iff,
    Option.pure_def, Option.some.injEq, Prod.mk.injEq] at h
  obtain ⟨doc, hdoc, a, ha, b, hb, hxs, hys, hx, hy⟩ := h
  exact ⟨doc, a, b, hdoc, toOption_eq_some_iff.mp ha,
    toOption_eq_some_iff.mp hb, hxs, hys, hx, hy⟩

/-- Two containers at positions, one of them in a sibling of the other. -/
theorem prune_perm_positions :
    ∃ doc a b, Document.parse
        "<r><c><k/><m/></c><c><n><x/><y/></n></c></r>" = some doc
      ∧ Address.parse "/r/c[1]" = .ok a ∧ Address.parse "/r/c[2]/n" = .ok b
      ∧ (let s : Selection := ⟨"/r/c[1]", a, .pathSpecific, some "k"⟩
        let s' : Selection := ⟨"/r/c[2]/n", b, .pathSpecific, some "x"⟩
        s.containers doc [] = [1] ∧ s'.containers doc [] = [5]
          ∧ ((default : Choices).prune doc [s, s']).2.1.SameTree
            ((default : Choices).prune doc [s', s]).2.1) := by
  obtain ⟨doc, a, b, hdoc, ha, hb, hs, hs', -⟩ :=
    @exists_inBothOrders "<r><c><k/><m/></c><c><n><x/><y/></n></c></r>"
      ("/r/c[1]", "k") ("/r/c[2]/n", "x") 3 [1] [5] false false
      (by decide +kernel)
  refine ⟨doc, a, b, hdoc, ha, hb, hs, hs', ?_⟩
  refine (prune_perm hdoc default (List.Perm.swap _ _ []) ?_ ?_ (.inr ?_)).1
  · simp only [List.forall_mem_cons]
    exact ⟨⟨_, ha⟩, ⟨_, hb⟩, by simp⟩
  · refine List.pairwise_pair.mpr fun n hn => ?_
    have hn : n ∈ [1] := hs ▸ hn
    have hnot : ∀ m ∈ [1], m ∉ [5] := by decide
    exact fun hm => hnot n hn (hs' ▸ hm)
  · simp only [List.forall_mem_cons]
    refine ⟨Selection.not_partsNamesakes fun option h => ?_,
      Selection.not_partsNamesakes fun option h => ?_, by simp⟩ <;>
      exact Option.some.inj h ▸ by decide

/-- Where the first choice takes out an element `k` and keeps another one
that is `p:k`, the second `k` is there only as long as the first one is:
the order decides whether the node `n` stays. -/
theorem prune_order_matters :
    ∃ doc a b, Document.parse
        "<r xmlns:p=\"u\"><c><k/><p:k><m/><n/></p:k></c></r>" = some doc
      ∧ Address.parse "/r/c" = .ok a ∧ Address.parse "/r/c/k[2]" = .ok b
      ∧ (let s : Selection := ⟨"/r/c", a, .pathSpecific, some "p:k"⟩
        let s' : Selection := ⟨"/r/c/k[2]", b, .pathSpecific, some "m"⟩
        [s, s'].Pairwise (Selection.Apart doc [])
          ∧ ¬ ((default : Choices).prune doc [s, s']).2.1.SameTree
            ((default : Choices).prune doc [s', s]).2.1) := by
  obtain ⟨doc, a, b, hdoc, ha, hb, hs, hs', hone, hother⟩ :=
    @exists_inBothOrders
      "<r xmlns:p=\"u\"><c><k/><p:k><m/><n/></p:k></c></r>"
      ("/r/c", "p:k") ("/r/c/k[2]", "m") 5 [1] [3] true false
      (by decide +kernel)
  refine ⟨doc, a, b, hdoc, ha, hb, ?_, fun hsame => ?_⟩
  · refine List.pairwise_pair.mpr fun n hn => ?_
    have hn : n ∈ [1] := hs ▸ hn
    have hnot : ∀ m ∈ [1], m ∉ [3] := by decide
    exact fun hm => hnot n hn (hs' ▸ hm)
  · have := hsame.isAttached 5
    rw [hone, hother] at this
    cases this

end Choices

end Overlay
