/-
Which documents are accepted when they have been written.

`Content.read?` says what is read where a document was written, or that
nothing is. Here the question is only whether something is read, and the
answer is a property of the tree (`Content.Wellformed`): what stands in it
has characters of documents, its names can be read, and the tag of each
element can be resolved in the scope around it (`Resolves`):

- its declarations are allowed,
- the prefixes of its attributes and its own prefix are declared,
- its attributes have different names, where prefixes stand for their
  URIs.

Joining texts makes no difference (`wellformed_merged_iff`), so that a
tree can be judged as it stands in the document.
-/
import Overlay.Proofs.Xml.Documents

namespace Overlay.Xml

open Text

-- =========================================================== resolving

theorem nodup_eraseDups {α : Type} [BEq α] [LawfulBEq α] (xs : List α) :
    xs.eraseDups.Nodup := by
  induction hn : xs.length using Nat.strong_induction_on generalizing xs with
  | _ n ih =>
      cases xs with
      | nil => simp
      | cons x xs =>
          have hle := List.length_filter_le (fun b => !b == x) xs
          rw [List.length_cons] at hn
          rw [List.eraseDups_cons, List.nodup_cons]
          exact ⟨by simp, ih _ (by omega) _ rfl⟩

/-- Leaving repetitions out keeps the length of a list only if there are
none. -/
theorem length_eraseDups_eq_iff {α : Type} [BEq α] [LawfulBEq α]
    {xs : List α} : xs.eraseDups.length = xs.length ↔ xs.Nodup := by
  have hnodup := nodup_eraseDups xs
  constructor
  · intro h
    have hsub := hnodup.subperm fun x hx => List.mem_eraseDups.mp hx
    exact (hsub.perm_of_length_le (Nat.le_of_eq h.symm)).nodup_iff.mp hnodup
  · intro h
    exact ((List.perm_ext_iff_of_nodup hnodup h).mpr
      fun _ => List.mem_eraseDups).length_eq

theorem isSome_mapM_iff {α β : Type} {f : α → Option β} {xs : List α} :
    (xs.mapM f).isSome = true ↔ ∀ x ∈ xs, (f x).isSome = true := by
  induction xs with
  | nil => simp
  | cons x xs ih =>
      rw [List.mapM_cons, List.forall_mem_cons, ← ih]
      cases f x with
      | none => simp
      | some y => cases xs.mapM f <;> simp

theorem map_some_of_mapM {α β : Type} {f : α → Option β} {xs : List α}
    {ys : List β} (h : xs.mapM f = some ys) : xs.map f = ys.map some := by
  induction xs generalizing ys with
  | nil =>
      cases h
      rfl
  | cons x xs ih =>
      rw [List.mapM_cons] at h
      obtain ⟨y, hy, h⟩ := Option.bind_eq_some_iff.mp h
      obtain ⟨zs, hzs, h⟩ := Option.bind_eq_some_iff.mp h
      cases h
      rw [List.map_cons, List.map_cons, hy, ih hzs]

/-- Whether the tag of an element stands for something in the scope around
it; `inner` is the scope inside. -/
structure Resolves (scope : Scope) (name : QName)
    (attributes : List (QName × String)) (inner : Scope) : Prop where
  allowed : ∃ own, ownBindings attributes = some own
    ∧ inner = scope.enter own
  declared : ∀ x ∈ attributes.filter (!declares ·.1),
    (expandAttributeName inner x.1).isSome = true
  distinct : ((attributes.filter (!declares ·.1)).map fun x =>
    expandAttributeName inner x.1).Nodup
  element : ∀ p, name.nsPrefix = some p →
    (inner.uri? (some p)).isSome = true

/-- Attributes are resolved exactly if their declarations are allowed,
their prefixes declared and their names different. -/
theorem exists_resolveAttributes_iff {scope inner : Scope}
    {attributes : List (QName × String)} :
    (∃ resolved, resolveAttributes scope attributes = some (resolved, inner))
      ↔ (∃ own, ownBindings attributes = some own
          ∧ inner = scope.enter own)
        ∧ (∀ x ∈ attributes.filter (!declares ·.1),
          (expandAttributeName inner x.1).isSome = true)
        ∧ ((attributes.filter (!declares ·.1)).map fun x =>
          expandAttributeName inner x.1).Nodup := by
  have hmapM : ∀ names, (attributes.filter (!declares ·.1)).mapM
        (fun x => expandAttributeName inner x.1) = some names →
      ((names.eraseDups.length == names.length) = true
        ↔ ((attributes.filter (!declares ·.1)).map fun x =>
          expandAttributeName inner x.1).Nodup) := by
    intro names h
    rw [map_some_of_mapM h, beq_iff_eq, length_eraseDups_eq_iff]
    exact (List.nodup_map_iff (Option.some_injective _)).symm
  constructor
  · rintro ⟨resolved, h⟩
    obtain ⟨own, names, hown, rfl, hnames, hlen, -⟩ :=
      of_resolveAttributes h
    exact ⟨⟨own, hown, rfl⟩,
      isSome_mapM_iff.mp (Option.isSome_iff_exists.mpr ⟨names, hnames⟩),
      (hmapM names hnames).mp (by simpa using hlen)⟩
  · rintro ⟨⟨own, hown, rfl⟩, hdeclared, hdistinct⟩
    obtain ⟨names, hnames⟩ :=
      Option.isSome_iff_exists.mp (isSome_mapM_iff.mpr hdeclared)
    have hguard := beq_iff_eq.mp ((hmapM names hnames).mpr hdistinct)
    rw [resolveAttributes, hown]
    simp only [Option.bind_eq_bind, Option.bind_some]
    rw [hnames]
    simp [guard, hguard]

/-- Some element is resolved exactly if nothing stands against it. -/
theorem exists_resolveElement_iff {scope inner : Scope} {name : QName}
    {attributes : List (QName × String)} :
    (∃ e, resolveElement scope name attributes = some (e, inner))
      ↔ Resolves scope name attributes inner := by
  have huri : ∀ p, (inner.uri? (some p)).isSome = true
      ↔ ∃ uri, inner.uriOfPrefix p = some uri := by
    intro p
    cases h : inner.uri? (some p) <;> simp [Scope.uriOfPrefix, h]
  constructor
  · rintro ⟨e, h⟩
    obtain ⟨⟨resolved, inner'⟩, hr, h⟩ := Option.bind_eq_some_iff.mp h
    cases hp : name.nsPrefix with
    | none =>
        rw [hp] at h
        cases h
        obtain ⟨hallowed, hdeclared, hdistinct⟩ :=
          exists_resolveAttributes_iff.mp ⟨resolved, hr⟩
        exact ⟨hallowed, hdeclared, hdistinct, by simp [hp]⟩
    | some p =>
        rw [hp] at h
        obtain ⟨uri, hu, h⟩ := Option.bind_eq_some_iff.mp h
        cases h
        obtain ⟨hallowed, hdeclared, hdistinct⟩ :=
          exists_resolveAttributes_iff.mp ⟨resolved, hr⟩
        refine ⟨hallowed, hdeclared, hdistinct, fun q hq => ?_⟩
        rw [hp] at hq
        cases hq
        exact (huri p).mpr ⟨uri, hu⟩
  · rintro ⟨hallowed, hdeclared, hdistinct, helement⟩
    obtain ⟨resolved, hr⟩ := exists_resolveAttributes_iff.mpr
      ⟨hallowed, hdeclared, hdistinct⟩
    rw [resolveElement, hr]
    simp only [Option.bind_eq_bind, Option.bind_some]
    cases hp : name.nsPrefix with
    | none => exact ⟨_, rfl⟩
    | some p =>
        obtain ⟨uri, hu⟩ := (huri p).mp (helement p hp)
        dsimp only
        rw [hu]
        exact ⟨_, rfl⟩

-- =============================================================== trees

/-- Whether the tag of an element can be read in the scope around it:
its names and values can, and they stand for an element. -/
def Element.Wellformed (scope : Scope) (e : Element) (inner : Scope) :
    Prop :=
  ∃ name attributes, nameOf? e.name.qualified.toList = some name
    ∧ name.nsPrefix ≠ some "xmlns"
    ∧ e.attributes.mapM Attribute.read? = some attributes
    ∧ Resolves scope name attributes inner

mutual

/-- Whether a tree that is written in a scope can be read. -/
def Tree.Wellformed (scope : Scope) : Tree → Prop
  | .element e children =>
    ∃ inner, e.Wellformed scope inner ∧ WellformedAll inner children
  | .text s => s.toList.all isXmlChar = true
  | .comment _ => True
  | .instruction t d => isDeclaration t d = false

/-- Whether trees that are written in a scope can all be read. -/
def WellformedAll (scope : Scope) : List Tree → Prop
  | [] => True
  | t :: rest => t.Wellformed scope ∧ WellformedAll scope rest

end

/-- A tag is read again if it is well formed in its scope: its names are found
where they are written, its values hold characters of documents, and its
attributes resolve. -/
theorem Element.exists_read?_iff {scope inner : Scope} {e : Element} :
    (∃ read, e.read? scope = some (read, inner))
      ↔ e.Wellformed scope inner := by
  rw [Wellformed]
  constructor
  · rintro ⟨read, h⟩
    obtain ⟨name, hname, h⟩ := Option.bind_eq_some_iff.mp h
    obtain ⟨attributes, hattributes, h⟩ := Option.bind_eq_some_iff.mp h
    split at h
    case isTrue => cases h
    case isFalse hno =>
        exact ⟨name, attributes, hname, by simpa using hno, hattributes,
          exists_resolveElement_iff.mp ⟨read, h⟩⟩
  · rintro ⟨name, attributes, hname, hno, hattributes, hresolves⟩
    obtain ⟨read, hread⟩ := exists_resolveElement_iff.mpr hresolves
    refine ⟨read, ?_⟩
    rw [read?, hname, Option.bind_some, hattributes, Option.bind_some,
      if_neg (by simpa using hno), hread]

mutual

/-- Something is read exactly where a tree can be read. -/
theorem isSome_read?_iff (scope : Scope) (t : Tree) :
    (t.read? scope).isSome = true ↔ t.Wellformed scope := by
  cases t with
  | element e children =>
      have hinner := fun inner => isSome_readAll?_iff inner children
      rw [Tree.read?, Tree.Wellformed]
      simp only [← hinner, ← Element.exists_read?_iff]
      constructor
      · intro h
        obtain ⟨t, ht⟩ := Option.isSome_iff_exists.mp h
        obtain ⟨⟨e', inner⟩, he, ht⟩ := Option.bind_eq_some_iff.mp ht
        obtain ⟨read, hread, -⟩ := Option.map_eq_some_iff.mp ht
        exact ⟨inner, ⟨e', he⟩, by rw [hread]; rfl⟩
      · rintro ⟨inner, ⟨e', he⟩, hread⟩
        obtain ⟨read, hread⟩ := Option.isSome_iff_exists.mp hread
        rw [he, Option.bind_some, hread]
        rfl
  | text s =>
      rw [Tree.read?, Tree.Wellformed]
      split <;> simp_all
  | comment s => simp [Tree.read?, Tree.Wellformed]
  | instruction t d =>
      rw [Tree.read?, Tree.Wellformed]
      split <;> simp_all

/-- Trees are read again in a row if each of them can be. -/
theorem isSome_readAll?_iff (scope : Scope) (ts : List Tree) :
    (readAll? scope ts).isSome = true ↔ WellformedAll scope ts := by
  cases ts with
  | nil => simp [readAll?, WellformedAll]
  | cons t rest =>
      have ht := isSome_read?_iff scope t
      have hrest := isSome_readAll?_iff scope rest
      rw [readAll?, WellformedAll, ← ht, ← hrest]
      cases t.read? scope with
      | none => simp
      | some read => cases readAll? scope rest <;> simp

end

mutual

/-- Joining texts makes no difference. -/
theorem wellformed_merged_iff (scope : Scope) (t : Tree) :
    t.merged.Wellformed scope ↔ t.Wellformed scope := by
  cases t with
  | element e children =>
      simp only [Tree.merged, Tree.Wellformed,
        wellformedAll_mergedAll_iff _ children]
  | _ => rfl

/-- Texts that are joined can be read if each could be alone. -/
theorem wellformedAll_mergedAll_iff (scope : Scope) (ts : List Tree) :
    WellformedAll scope (mergedAll ts) ↔ WellformedAll scope ts := by
  cases ts with
  | nil => rfl
  | cons t rest =>
      have ht := wellformed_merged_iff scope t
      have hrest := wellformedAll_mergedAll_iff scope rest
      rw [mergedAll, WellformedAll, ← ht, ← hrest]
      rcases joinText_cases t.merged (mergedAll rest) with
        ⟨s, u, more, hs, hu, hj⟩ | ⟨hj, -⟩
      · rw [hj, hs, hu]
        simp [WellformedAll, Tree.Wellformed, and_assoc]
      · rw [hj, WellformedAll]

end

-- ===================================================== whole documents

/-- Whether content that is written can be read. In front of it stands a
declaration, if one is asked for; otherwise an instruction at the very
start may be taken for one. -/
structure Content.Wellformed (c : Content) (declaration : Bool) :
    Prop where
  version : ∀ data, (c.start declaration).1 = some data →
    isVersioned data = true
  prolog : ∀ t ∈ (c.start declaration).2, t.isDeclaration = false
  root : c.root.Wellformed []
  epilog : ∀ t ∈ c.epilog, t.isRemark = true ∧ t.isDeclaration = false

/-- Something is read exactly where content can be read. -/
theorem Content.isSome_read?_iff (c : Content) (declaration : Bool) :
    (c.read? declaration).isSome = true ↔ c.Wellformed declaration := by
  have hroot : (c.root.merged.read? []).isSome = true
      ↔ c.root.Wellformed [] :=
    (Xml.isSome_read?_iff [] c.root.merged).trans
      (wellformed_merged_iff [] c.root)
  rw [read?]
  constructor
  · intro h
    split at h
    case isFalse => cases h
    case isTrue hg =>
        simp only [Bool.and_eq_true, Bool.not_eq_true', List.any_eq_false,
          List.all_eq_true, Bool.not_eq_true] at hg
        obtain ⟨⟨hversion, hprolog⟩, hepilog⟩ := hg
        refine ⟨fun data hd => ?_, fun t ht => by simpa using hprolog t ht,
          hroot.mp (by simpa using h), hepilog⟩
        rw [hd] at hversion
        exact hversion
  · intro h
    rw [if_pos]
    · simpa using hroot.mpr h.root
    · simp only [Bool.and_eq_true, Bool.not_eq_true', List.any_eq_false,
        List.all_eq_true, Bool.not_eq_true]
      refine ⟨⟨?_, fun t ht => by simpa using h.prolog t ht⟩, h.epilog⟩
      cases hd : (c.start declaration).1 with
      | none => rfl
      | some data => exact h.version data hd

/-- A document that is written is accepted exactly if its content can be
read. -/
theorem Document.isSome_parse_write_iff {doc : Document}
    (h : doc.content.Plain) (options : WriteOptions) :
    (parse (doc.write options)).isSome = true
      ↔ doc.content.Wellformed options.declaration := by
  rw [write, parse, String.toList_ofList, readContent_write h,
    Option.isSome_map, Content.isSome_read?_iff]

end Overlay.Xml
