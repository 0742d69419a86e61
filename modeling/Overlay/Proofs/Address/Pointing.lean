/-
The elements an address points at.

# Chains

The index walks down from the root and gives every element a chain. Seen
from the element, the chain is the way up, read backwards: a link for
every element on it, with its names and its position among its siblings
(`Document.chain`). So an entry of the index is known from its element
(`IsOf`), and all attached elements have one
(`exists_entry_of_isAttached`).

# Points

An address then points at the attached elements whose chain it covers and
whose namespace it fits (`mem_resolve_iff`). A search that begins at a
target's local name finds what a look through all elements would find,
unless a local name holds a colon itself, which the names of a document
that was made by hand may do (`mem_resolve_of_unrooted`). Positions matter
only to an address that gives one: other addresses cover chains by their
names (`Address.pointsTo_congr`).
-/
import Overlay.Proofs.Address.Ordering

namespace Overlay

open Xml Wildcard

-- ============================================================== chains

namespace Xml.Document

/-- The position of an element among its siblings of the same local name,
counted from one. -/
def position (doc : Document) (id : Nat) : Nat :=
  match doc.parent? id with
  | some p => ((doc.elementChildren p).takeWhile (· != id)).countP
      (doc.localName · == doc.localName id) + 1
  | none => 1

/-- The link of an element. -/
def link (doc : Document) (id : Nat) : Link :=
  ⟨ElementIndex.qualifiedName doc id, doc.localName id, doc.position id⟩

/-- The chain of an element: the links on the way up from it, those of the
root first. -/
def chain (doc : Document) (id : Nat) : List Link :=
  (doc.lineage id).reverse.map doc.link

/-- The entry that an element has in an index, its path aside. -/
def entry (doc : Document) (id : Nat) : IndexEntry :=
  ElementIndex.entryAt doc id (doc.chain id) ""

/-- The chain of an element ends with its own link. -/
theorem getLast?_chain (doc : Document) (i : Nat) :
    (doc.chain i).getLast? = some (doc.link i) := by
  obtain ⟨up, hup⟩ := doc.exists_lineage i
  rw [chain, hup, List.reverse_cons, List.map_append, List.map_singleton,
    List.getLast?_concat]

end Xml.Document

namespace ElementIndex

variable {doc : Document}

/-- Whether an entry is that of its element, which is attached. -/
structure IsOf (doc : Document) (e : IndexEntry) : Prop where
  element : doc.isElement e.node = true
  attached : doc.isAttached e.node = true
  chain : e.chain = doc.chain e.node
  uri : e.uri = doc.uri? e.node
  nsPrefix : e.nsPrefix = (doc.name? e.node).bind (·.nsPrefix)

/-- Positions count the siblings that come earlier. -/
theorem position_of_mem {before : List String} {ids : List Nat}
    (hids : ids.Nodup) {id n : Nat} (h : (id, n) ∈ positions doc before ids) :
    n = before.count (doc.localName id)
      + (ids.takeWhile (· != id)).countP
        (doc.localName · == doc.localName id) + 1 := by
  induction ids generalizing before with
  | nil => cases h
  | cons first rest ih =>
      obtain ⟨hfirst, hrest⟩ := List.nodup_cons.mp hids
      rw [positions, List.mem_cons] at h
      rcases h with h | h
      · cases h
        simp
      · have hmem : id ∈ rest := by
          have := List.mem_map_of_mem (f := (·.1)) h
          rwa [map_fst_positions] at this
        have hne : first ≠ id := fun heq => hfirst (heq ▸ hmem)
        rw [ih hrest h, List.takeWhile_cons_of_pos (by simpa using hne),
          List.countP_cons, List.count_cons]
        omega

/-- What the entry of a child is, in terms of the child. -/
theorem eq_entryAt_of_mem_childEntries (h : doc.Linked)
    {parent e : IndexEntry} (he : e ∈ childEntries doc parent) :
    e = entryAt doc e.node (parent.chain ++ [doc.link e.node])
      (parent.positional ++ "/"
        ++ if ((doc.elementChildren parent.node).map doc.localName).count
              (doc.localName e.node) > 1
          then doc.localName e.node ++ "["
            ++ toString (doc.position e.node) ++ "]"
          else doc.localName e.node) := by
  have hparent := h.parent?_of_mem_elementChildren
    (mem_elementChildren_of_mem_childEntries he)
  obtain ⟨⟨id, n⟩, hmem, rfl⟩ := List.mem_map.mp he
  have hparent : doc.parent? id = some parent.node := hparent
  have hposition : doc.position id = n := by
    have hn := position_of_mem ((h.nodup parent.node).filter _) hmem
    rw [Document.position, hparent, hn, List.count_nil, Nat.zero_add]
    rfl
  simp only [entryAt, Document.link, hposition]

/-- The entries of the children of an element are those of the document if its
own one is. -/
theorem isOf_childEntries (h : doc.Linked) {parent e : IndexEntry}
    (hp : IsOf doc parent) (he : e ∈ childEntries doc parent) :
    IsOf doc e := by
  have hentry := eq_entryAt_of_mem_childEntries h he
  have hmem := mem_elementChildren_of_mem_childEntries he
  have hparent := h.parent?_of_mem_elementChildren hmem
  have hchain : e.chain = parent.chain ++ [doc.link e.node] :=
    congrArg IndexEntry.chain hentry
  refine ⟨(List.mem_filter.mp hmem).2,
    (h.isAttached_of_parent hparent).mpr hp.attached, ?_,
    congrArg IndexEntry.uri hentry, congrArg IndexEntry.nsPrefix hentry⟩
  rw [hchain, hp.chain, Document.chain, Document.chain,
    h.lineage_of_parent hparent, List.reverse_cons, List.map_append,
    List.map_singleton]

theorem isOf_rootEntry (h : doc.Linked)
    (hroot : doc.isElement doc.root = true) : IsOf doc (rootEntry doc) := by
  refine ⟨hroot, h.isAttached_root, ?_, rfl, rfl⟩
  show [_] = doc.chain doc.root
  rw [Document.chain, Document.lineage_of_none h.root, List.reverse_singleton,
    List.map_singleton, Document.link, Document.position, h.root]

/-- The entries of an index are those of their elements. -/
theorem isOf_of_mem_entries (h : doc.Linked)
    (hroot : doc.isElement doc.root = true) {e : IndexEntry}
    (he : e ∈ (ofDocument doc).entries) : IsOf doc e :=
  entries_induct (isOf_rootEntry h hroot)
    (fun _ hp _ hc => isOf_childEntries h hp hc) e he

/-- The entries below an element are closed under going down. -/
theorem mem_entriesBelow_of_child (h : doc.Linked) (hs : doc.Sound)
    {parent e f : IndexEntry} (hf : f ∈ childEntries doc e)
    (he : e = parent ∨ e ∈ entriesBelow doc parent) :
    f ∈ entriesBelow doc parent := by
  have hlt : ∀ {parent c : IndexEntry}, c ∈ childEntries doc parent →
      parent.node < c.node ∧ c.node < doc.size := by
    intro parent c hc
    have hchild := List.mem_of_mem_filter
      (mem_elementChildren_of_mem_childEntries hc)
    exact ⟨(h.child _ _ hchild).2, hs.children _ _ hchild⟩
  have hin : ∀ {parent : IndexEntry}, ∀ c ∈ childEntries doc parent,
      c ∈ entriesBelow doc parent := by
    intro parent c hc
    rw [entriesBelow]
    exact List.mem_append_left _ hc
  rcases he with rfl | he
  · exact hin f hf
  fun_induction entriesBelow doc parent with
  | case1 parent children ih =>
      refine List.mem_append_right _ ?_
      rcases List.mem_append.mp he with he | he
      · refine List.mem_flatMap.mpr ⟨e, he, ?_⟩
        rw [dif_pos (hlt he)]
        exact hin f hf
      · obtain ⟨c, hc, he⟩ := List.mem_flatMap.mp he
        refine List.mem_flatMap.mpr ⟨c, hc, ?_⟩
        rw [dif_pos (hlt hc)] at he ⊢
        exact ih c (hlt hc) he

/-- Every attached element has an entry. -/
theorem exists_entry_of_isAttached (h : doc.Linked) (hs : doc.Sound)
    {id : Nat} (hid : doc.isElement id = true)
    (hattached : doc.isAttached id = true) :
    ∃ e ∈ (ofDocument doc).entries, e.node = id := by
  refine h.attached_induct
    (P := fun id => doc.isElement id = true →
      ∃ e ∈ (ofDocument doc).entries, e.node = id)
    (fun _ => ⟨rootEntry doc, List.mem_cons_self .., rfl⟩)
    (fun i p hp _ ih hi => ?_) hattached hid
  obtain ⟨hmem, helement⟩ := h.parent i p hp
  obtain ⟨e, he, rfl⟩ := ih helement
  have hchild : i ∈ (childEntries doc e).map (·.node) := by
    rw [map_node_childEntries]
    exact List.mem_filter.mpr ⟨hmem, hi⟩
  obtain ⟨f, hf, rfl⟩ := List.mem_map.mp hchild
  exact ⟨f, List.mem_cons_of_mem _
    (mem_entriesBelow_of_child h hs hf (List.mem_cons.mp he)), rfl⟩

end ElementIndex

-- ============================================================== points

/-- Whether an address points at an element of a document. -/
def Address.pointsTo (a : Address) (aliases : Table String)
    (doc : Document) (id : Nat) : Bool :=
  a.selects aliases (doc.entry id)

theorem ElementIndex.IsOf.selects {doc : Document} {e : IndexEntry}
    (he : IsOf doc e) (a : Address) (aliases : Table String) :
    a.selects aliases e = a.pointsTo aliases doc e.node := by
  simp only [Address.pointsTo, Address.selects, Address.fitsNamespace,
    Document.entry, ElementIndex.entryAt, he.chain, he.uri, he.nsPrefix]

/-- A look through some entries of an index finds the attached elements at
which an address points, if their entries are among them. -/
theorem mem_map_filter_selects_iff {doc : Document} (h : doc.Linked)
    (hs : doc.Sound) {a : Address} {aliases : Table String}
    {entries : List IndexEntry} {id : Nat}
    (hsub : entries ⊆ (ElementIndex.ofDocument doc).entries)
    (hall : ∀ e ∈ (ElementIndex.ofDocument doc).entries, e.node = id →
      a.selects aliases e = true → e ∈ entries) :
    id ∈ (entries.filter (a.selects aliases)).map (·.node)
      ↔ doc.isElement id = true ∧ doc.isAttached id = true
        ∧ a.pointsTo aliases doc id = true := by
  rw [List.mem_map]
  constructor
  · rintro ⟨e, he, rfl⟩
    obtain ⟨he, hsel⟩ := List.mem_filter.mp he
    have hof := ElementIndex.isOf_of_mem_entries h hs.root (hsub he)
    exact ⟨hof.element, hof.attached, hof.selects a aliases ▸ hsel⟩
  · rintro ⟨helement, hattached, hpoints⟩
    obtain ⟨e, he, rfl⟩ :=
      ElementIndex.exists_entry_of_isAttached h hs helement hattached
    have hof := ElementIndex.isOf_of_mem_entries h hs.root he
    have hsel := (hof.selects a aliases).trans hpoints
    exact ⟨e, List.mem_filter.mpr ⟨hall e he rfl hsel, hsel⟩, rfl⟩

/-- The elements that an address resolves to are the attached ones at
which it points. -/
theorem mem_resolve_iff {doc : Document} (h : doc.Linked) (hs : doc.Sound)
    (hspelled : ∀ id kind, doc.kind? id = some kind → kind.Spelled)
    {text : String} {a : Address} (ha : Address.parse text = .ok a)
    {aliases : Table String} {cache : Cache} {id : Nat} :
    id ∈ (((ElementIndex.ofDocument doc).resolve aliases a).run cache).1
      ↔ doc.isElement id = true ∧ doc.isAttached id = true
        ∧ a.pointsTo aliases doc id = true := by
  rw [resolve_answers_of_spelled hspelled ha aliases cache]
  exact mem_map_filter_selects_iff h hs (List.Subset.refl _)
    fun _ he _ _ => he

/-- So they are in any document, read or not, if the address is not a path
from the root. Only if its target is written with a prefix, and without
wildcards, the local name of an element must not hold a colon. -/
theorem mem_resolve_of_unrooted {doc : Document} (h : doc.Linked)
    (hs : doc.Sound) {a : Address} (hshape : a.shape ≠ .rooted) {id : Nat}
    (hcolon : a.target.isPrefixed = true → a.target.isWildcard = false →
      ':' ∉ (doc.localName id).toList)
    {aliases : Table String} {cache : Cache} :
    id ∈ (((ElementIndex.ofDocument doc).resolve aliases a).run cache).1
      ↔ doc.isElement id = true ∧ doc.isAttached id = true
        ∧ a.pointsTo aliases doc id = true := by
  have hplain : a.isPlainRooted = false := by
    simp [Address.isPlainRooted, hshape]
  have hindex : ElementIndex.ofDocument doc
      = ElementIndex.ofEntries (ElementIndex.ofDocument doc).entries := rfl
  rw [ElementIndex.resolve, if_neg (by simp [hplain])]
  split
  case isTrue hw =>
      rw [pick_answers (pointsAt_answers a aliases)]
      exact mem_map_filter_selects_iff h hs (List.Subset.refl _)
        fun _ he _ _ => he
  case isFalse hw =>
      have hw : a.target.isWildcard = false := by simpa using hw
      rw [pick_answers (pointsAt_answers a aliases), hindex,
        ElementIndex.named_ofEntries]
      refine mem_map_filter_selects_iff h hs (List.filter_subset_self _)
        fun e he hnode hsel => List.mem_filter.mpr ⟨he, ?_⟩
      -- the last link is that of the element
      have hof := ElementIndex.isOf_of_mem_entries h hs.root he
      rw [Address.selects, Bool.and_eq_true] at hsel
      obtain ⟨l, hlast, hcovers⟩ := target_of_covers hsel.1
      have hlink : l = doc.link e.node := by
        rw [hof.chain, doc.getLast?_chain] at hlast
        exact (Option.some.inj hlast).symm
      have hname := localName_of_covers
        (hlink ▸ ElementIndex.qualifiedName_eq doc e.node)
        (fun hp => hlink ▸ hnode ▸ hcolon hp hw) hw hcovers
      simp [IndexEntry.localName, hlast, hname]

-- =========================================================== positions

/-- Whether no step of an address gives a position. -/
def Address.IsFree (a : Address) : Prop := ∀ s ∈ a.steps, s.position = none

section

variable {f : Link → Link}

/-- Steps that fit changed links as they fit the links themselves. -/
theorem stepsCover_map {steps : List Step}
    (h : ∀ s ∈ steps, ∀ l, s.covers (f l) = s.covers l)
    (links : List Link) :
    stepsCover steps (links.map f) = stepsCover steps links := by
  rw [stepsCover, stepsCover, List.length_map, List.zip_map_right,
    List.all_map]
  refine congrArg (_ && ·) ?_
  rw [Bool.eq_iff_iff, List.all_eq_true, List.all_eq_true]
  refine forall₂_congr fun x hx => ?_
  have hcovers := h x.1 (List.of_mem_zip hx).1 x.2
  exact Bool.eq_iff_iff.mp hcovers

/-- What no step of an address looks at makes no difference to what it
covers. -/
theorem Address.covers_map {a : Address}
    (h : ∀ s ∈ a.steps, ∀ l, s.covers (f l) = s.covers l)
    (chain : List Link) : a.covers (chain.map f) = a.covers chain := by
  have hend : (decide (a.steps.length ≤ (chain.map f).length)
        && stepsCover a.steps ((chain.map f).drop
          ((chain.map f).length - a.steps.length)))
      = (decide (a.steps.length ≤ chain.length)
        && stepsCover a.steps (chain.drop
          (chain.length - a.steps.length))) := by
    rw [List.length_map, ← List.map_drop, stepsCover_map h]
  obtain ⟨qualifier, shape, steps, hsteps, attr⟩ := a
  cases shape with
  | dotted => exact hend
  | bare => exact hend
  | rooted =>
      cases steps with
      | nil => exact absurd rfl hsteps
      | cons first others =>
          cases chain with
          | nil => rfl
          | cons root below =>
              have hwhole := stepsCover_map h (root :: below)
              have hbelow := stepsCover_map h below
              have hfirst := h first (List.mem_cons_self ..) root
              rw [List.map_cons] at hwhole
              simp only [Address.covers, List.map_cons, hwhole, hbelow,
                hfirst]

end

/-- A link without its position. -/
def Link.unplaced (l : Link) : Link := { l with position := 0 }

/-- Whether two elements of two documents are alike for an address: but
for positions, where the address gives none. -/
structure Address.SameTo (a : Address) (doc doc' : Document) (id : Nat) :
    Prop where
  names : (doc'.chain id).map Link.unplaced
    = (doc.chain id).map Link.unplaced
  positions : a.IsFree ∨ doc'.chain id = doc.chain id
  uri : doc'.uri? id = doc.uri? id
  name : doc'.name? id = doc.name? id

/-- An address without positions covers chains by their names. -/
theorem Address.pointsTo_congr {a : Address} {doc doc' : Document}
    {id : Nat} (h : a.SameTo doc doc' id) (aliases : Table String) :
    a.pointsTo aliases doc' id = a.pointsTo aliases doc id := by
  have hcovers : a.covers (doc'.chain id) = a.covers (doc.chain id) := by
    rcases h.positions with hfree | hsame
    · -- all positions may as well be forgotten
      have hunplaced : ∀ s ∈ a.steps, ∀ l : Link,
          s.covers l.unplaced = s.covers l := by
        intro s hs l
        simp only [Step.covers, hfree s hs, Link.unplaced, Option.all_none]
      rw [← a.covers_map hunplaced, h.names, a.covers_map hunplaced]
    · rw [hsame]
  simp only [Address.pointsTo, Address.selects, Address.fitsNamespace,
    Document.entry, ElementIndex.entryAt, hcovers, h.uri, h.name]

end Overlay
