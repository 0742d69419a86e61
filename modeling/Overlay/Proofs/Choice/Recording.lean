/-
Snapshots of documents.

# Places

Each value of a document has a place: the names on the way from the root
to its element, and the attribute that it is the value of, unless it is
the text of the element. `places` lists the values element after element.
Taking a snapshot goes down the tree and keeps the text of each path as it
goes; it records these values, in this order (`capture_eq`).

# Texts of places

A snapshot knows places by their texts only. In a document that was read,
names hold neither a slash nor an `@`, so a text belongs to one place: what
stands behind the `@` is told apart from what stands before it
(`append_mark_inj`), and what stands before it is a path, which ends with
another one exactly if its names end with those of the other one
(`pathText_suffix_iff`).

# Looking a field up

What is recorded first under a text is what is found under it, so a look-up
goes to the first place of some kind (`get?_recorded_eq`), and where names
are bare the kind is one of names (`get?_recorded`). A field with several
names has the value of the first place with these names, or else of the
first place whose names end with them (`get?_capture`). Where there is no
such place, the first place with the last of the names is taken, wherever it
is; the value of a field need not be at the place that the field names
(`get?_elsewhere`).
-/
import Overlay.Choice.Snapshot
import Overlay.Proofs.Address.Resolving
import Overlay.Proofs.Table
import Overlay.Proofs.Xml.Forests
import Overlay.Proofs.Xml.Roundtrip

namespace Overlay

open Text Xml

-- ======================================================= texts of paths

/-- A tail that begins with a character is behind a text without it. -/
theorem cons_suffix_append_iff {c : Char} {rest front back : List Char}
    (h : c ∉ front) : c :: rest <:+ front ++ back ↔ c :: rest <:+ back := by
  induction front with
  | nil => rfl
  | cons f front ih =>
      rw [List.mem_cons, not_or] at h
      rw [List.cons_append, List.suffix_cons_iff, ih h.2]
      refine or_iff_right fun heq => ?_
      exact h.1 (List.cons.inj heq).1

theorem isSome_before?_iff {tail text : List Char} :
    (before? tail text).isSome = true ↔ tail <:+ text := by
  simp only [Option.isSome_iff_exists, before?_eq_some_iff]
  exact exists_congr fun _ => eq_comm

/-- A path ends with another one exactly if its names end with those of
the other one. -/
theorem pathText_suffix_iff {xs ys : List (List Char)} (hne : xs ≠ [])
    (hx : ∀ n ∈ xs, '/' ∉ n) (hy : ∀ n ∈ ys, '/' ∉ n) :
    pathText xs <:+ pathText ys ↔ xs <:+ ys := by
  obtain ⟨x, rest, rfl⟩ := List.exists_cons_of_ne_nil hne
  have hbegins : pathText (x :: rest) = '/' :: (x ++ pathText rest) := by
    rw [pathText, List.flatMap_cons]
    rfl
  induction ys with
  | nil => simp [pathText]
  | cons y ys ih =>
      obtain ⟨hslash, hys⟩ := List.forall_mem_cons.mp hy
      have hcons : pathText (y :: ys) = '/' :: (y ++ pathText ys) := by
        rw [pathText, List.flatMap_cons]
        rfl
      calc
        pathText (x :: rest) <:+ pathText (y :: ys)
          ↔ pathText (x :: rest) = pathText (y :: ys)
            ∨ pathText (x :: rest) <:+ pathText ys := by
              rw [hcons, List.suffix_cons_iff, hbegins,
                cons_suffix_append_iff hslash]
        _ ↔ x :: rest = y :: ys ∨ x :: rest <:+ ys :=
              or_congr (pathText_inj hx hy) (ih hys)
        _ ↔ x :: rest <:+ y :: ys := List.suffix_cons_iff.symm

namespace Snapshot

/-- The text of an attribute behind its element. -/
def mark : Option String → String
  | some a => "@" ++ a
  | none => ""

theorem toList_mark (a? : Option String) :
    (mark a?).toList = a?.elim [] fun a => '@' :: a.toList := by
  cases a? with
  | none => rfl
  | some a =>
      rw [mark, String.toList_append]
      rfl

/-- Paths and attributes are told apart. -/
theorem append_mark_inj {x y : List Char} (hx : '@' ∉ x) (hy : '@' ∉ y)
    {a? b? : Option String} :
    x ++ (mark a?).toList = y ++ (mark b?).toList ↔ x = y ∧ a? = b? := by
  refine ⟨fun h => ?_, fun h => h.1 ▸ h.2 ▸ rfl⟩
  -- without an attribute there is no division
  have hdivide : ∀ {z : List Char} (c? : Option String), '@' ∉ z →
      splitFirst? '@' (z ++ (mark c?).toList)
        = c?.map fun c => (z, c.toList) := by
    intro z c? hz
    rw [toList_mark]
    cases c? with
    | none => simpa [splitFirst?_eq_none_iff] using hz
    | some c => exact splitFirst?_eq_some_iff.mpr ⟨rfl, hz⟩
  have hsplit := congrArg (splitFirst? '@') h
  rw [hdivide a? hx, hdivide b? hy] at hsplit
  have hsame : a? = b? := by
    cases a? <;> cases b? <;> simp_all [String.toList_inj]
  rw [hsame] at h
  exact ⟨List.append_cancel_right h, hsame⟩

/-- What ends with a path and an attribute has this attribute behind a
path that ends with this one. -/
theorem append_mark_suffix_iff {x y : List Char} (hx : '@' ∉ '/' :: x)
    (hy : '@' ∉ y) {a? b? : Option String}
    (hb : ∀ b, b? = some b → '/' ∉ b.toList) :
    '/' :: x ++ (mark a?).toList <:+ y ++ (mark b?).toList
      ↔ '/' :: x <:+ y ∧ a? = b? := by
  constructor
  · rintro ⟨front, h⟩
    have hfront : '@' ∉ front := by
      -- or else the slash would stand in the attribute
      intro hat
      obtain ⟨before, behind, rfl, hbefore⟩ :=
        List.eq_append_cons_of_mem hat
      have hsplit : splitFirst? '@' (y ++ (mark b?).toList)
          = some (before, behind ++ '/' :: x ++ (mark a?).toList) := by
        rw [← h]
        exact splitFirst?_eq_some_iff.mpr ⟨by simp, hbefore⟩
      rw [toList_mark] at hsplit
      cases b? with
      | none =>
          rw [Option.elim_none, List.append_nil,
            splitFirst?_eq_none_iff.mpr hy] at hsplit
          cases hsplit
      | some b =>
          rw [Option.elim_some,
            splitFirst?_eq_some_iff.mpr ⟨rfl, hy⟩] at hsplit
          refine hb b rfl ?_
          rw [(Prod.mk.inj (Option.some.inj hsplit)).2]
          simp
    rw [← List.append_assoc, append_mark_inj (by simp_all) hy] at h
    exact ⟨⟨front, h.1⟩, h.2⟩
  · rintro ⟨⟨front, rfl⟩, rfl⟩
    exact ⟨front, by simp⟩

-- ============================================================== places

/-- A value of a document: the names on the way from the root to its
element, the attribute that has it, unless it is the text of the element,
and itself. -/
structure Place where
  names : List String
  attr : Option String
  value : String
  deriving DecidableEq, Repr

/-- The path of some names. -/
def pathOf (names : List String) : String :=
  String.ofList (pathText (names.map String.toList))

/-- What is recorded for a place. -/
def Place.found (p : Place) : Found where
  path := pathOf p.names ++ mark p.attr
  name := p.names.getLast?.getD "" ++ mark p.attr
  value := p.value

end Snapshot

namespace Xml.Document

variable (doc : Document)

/-- The local names on the way from the root to a node. -/
def trail (i : Nat) : List String :=
  (doc.lineage i).reverse.map doc.localName

/-- The values at an element: its text, if it has one, and those of the
attributes that declare nothing. -/
def placesAt (i : Nat) : List Snapshot.Place :=
  ((doc.text? i).map fun t => ⟨doc.trail i, none, trim t⟩).toList
    ++ ((doc.attributes i).filter (!·.name.isDeclaration)).map fun a =>
      ⟨doc.trail i, some a.name.qualified, a.value⟩

/-- The values of a document, element after element. -/
def places : List Snapshot.Place := doc.elements.flatMap doc.placesAt

end Xml.Document

namespace Snapshot

variable {doc : Document}

theorem pathOf_eq_join {names : List String} (h : names ≠ []) :
    pathOf names = "/" ++ join "/" names :=
  String.toList_inj.mp
    (String.toList_ofList.trans (toList_join_slash names h).symm)

/-- A path grows by a step at its end. -/
theorem pathOf_concat (names : List String) (n : String) :
    pathOf (names ++ [n]) = pathOf names ++ "/" ++ n := by
  have hslash : "/".toList = ['/'] := rfl
  rw [← String.toList_inj]
  simp [pathOf, pathText, hslash]

/-- The last name on the way to a node is its own. -/
theorem exists_trail (doc : Document) (i : Nat) :
    ∃ above, doc.trail i = above ++ [doc.localName i] := by
  obtain ⟨up, hup⟩ := doc.exists_lineage i
  exact ⟨up.reverse.map doc.localName, by simp [Document.trail, hup]⟩

/-- The way to a child goes on where that to its parent ends. -/
theorem trail_of_parent (hl : doc.Linked) {i c : Nat}
    (hp : doc.parent? c = some i) :
    doc.trail c = doc.trail i ++ [doc.localName c] := by
  simp [Document.trail, hl.lineage_of_parent hp]

/-- What is found at an element are the values there. -/
theorem foundAt_eq (doc : Document) (i : Nat) :
    foundText doc i (pathOf (doc.trail i))
        ++ foundAttributes doc i (pathOf (doc.trail i))
      = (doc.placesAt i).map Place.found := by
  obtain ⟨above, habove⟩ := exists_trail doc i
  have hname : (doc.trail i).getLast?.getD "" = doc.localName i := by
    simp [habove]
  rw [Document.placesAt, List.map_append]
  congr 1
  · rw [foundText]
    cases doc.text? i with
    | none => rfl
    | some t => simp [Place.found, mark, hname]
  · rw [foundAttributes, List.map_map, ← List.filterMap_eq_map,
      List.filterMap_filter]
    refine List.filterMap_congr fun a _ => ?_
    cases a.name.isDeclaration with
    | true => rfl
    | false => simp [Place.found, mark, hname]

/-- What is found from an element on are the values there and below. -/
theorem foundFrom_eq (hl : doc.Linked) (hs : doc.Sound) (i : Nat) :
    ∀ above, doc.trail i = above ++ [doc.localName i] →
      foundFrom doc (pathOf above) i
        = ((i :: doc.descendants i).flatMap doc.placesAt).map
          Place.found := by
  refine hl.children_induct hs (P := fun i => ∀ above,
    doc.trail i = above ++ [doc.localName i] →
      foundFrom doc (pathOf above) i
        = ((i :: doc.descendants i).flatMap doc.placesAt).map
          Place.found) (fun i ih above habove => ?_) i
  rw [foundFrom, ← pathOf_concat, ← habove, foundAt_eq, List.flatMap_cons,
    List.map_append, hl.descendants_eq hs i, List.flatMap_assoc,
    List.map_flatMap]
  refine congrArg _ (List.flatMap_congr fun c hc => ?_)
  have hmem := List.mem_of_mem_filter hc
  obtain ⟨hparent, hlt⟩ := hl.child i c hmem
  rw [dif_pos ⟨hlt, hs.children i c hmem⟩]
  exact ih c hc _ (trail_of_parent hl hparent)

/-- The snapshot that has the values at some places, in their order. -/
def recorded (ps : List Place) : Snapshot :=
  (ps.map Place.found).foldl record {}

/-- A snapshot of a document records its values in order. -/
theorem capture_eq (hl : doc.Linked) (hs : doc.Sound) :
    capture doc = recorded doc.places := by
  have htrail : doc.trail doc.root = [] ++ [doc.localName doc.root] := by
    simp [Document.trail, Document.lineage_of_none hl.root]
  exact congrArg (List.foldl record {})
    (foundFrom_eq hl hs doc.root [] htrail)

-- =========================================================== look-ups

/-- Whether a name holds neither a slash nor an `@`. -/
def IsBare (name : String) : Prop :=
  '/' ∉ name.toList ∧ '@' ∉ name.toList

theorem isBare_of_chars {name : String}
    (h : ∀ c ∈ name.toList, isNameChar c = true) : IsBare name :=
  ⟨fun hc => absurd (h _ hc) (by decide),
    fun hc => absurd (h _ hc) (by decide)⟩

/-- A place whose names are bare. -/
structure Place.Proper (p : Place) : Prop where
  ne_nil : p.names ≠ []
  names : ∀ n ∈ p.names, IsBare n
  attr : ∀ a, p.attr = some a → IsBare a

/-- The local names of a document that was read are bare. -/
theorem isBare_localName {text : String}
    (h : Document.parse text = some doc) (i : Nat) :
    IsBare (doc.localName i) := by
  cases he : doc.element? i with
  | none =>
      have hempty : doc.localName i = "" := by
        simp [Document.localName, Document.name?, he]
      simp [hempty, IsBare]
  | some e =>
      have hlocal : doc.localName i = e.name.localName := by
        simp [Document.localName, Document.name?, he]
      have hkind := kind_of_parse h (Document.element?_eq_some_iff.mp he)
      rw [hlocal]
      exact isBare_of_chars hkind.1.localPart.chars

/-- The names of its attributes are bare, prefixes included. -/
theorem isBare_qualified {text : String}
    (h : Document.parse text = some doc) {i : Nat} {a : Attribute}
    (ha : a ∈ doc.attributes i) : IsBare a.name.qualified := by
  rw [Document.attributes] at ha
  cases he : doc.element? i with
  | none => simp [he] at ha
  | some e =>
      have hkind := kind_of_parse h (Document.element?_eq_some_iff.mp he)
      exact isBare_of_chars (hkind.2 a (by simpa [he] using ha)).chars

/-- The places of a document that was read are proper. -/
theorem proper_of_mem_places {text : String}
    (h : Document.parse text = some doc) {p : Place}
    (hp : p ∈ doc.places) : p.Proper := by
  obtain ⟨i, -, hp⟩ := List.mem_flatMap.mp hp
  have hne : doc.trail i ≠ [] := by
    obtain ⟨above, habove⟩ := exists_trail doc i
    simp [habove]
  have hnames : ∀ n ∈ doc.trail i, IsBare n := by
    intro n hn
    obtain ⟨j, -, rfl⟩ := List.mem_map.mp hn
    exact isBare_localName h j
  rcases List.mem_append.mp hp with hp | hp
  · obtain ⟨t, -, rfl⟩ := Option.map_eq_some_iff.mp
      (Option.mem_toList.mp hp)
    exact ⟨hne, hnames, fun a ha => (nomatch ha)⟩
  · obtain ⟨a, ha, rfl⟩ := List.mem_map.mp hp
    refine ⟨hne, hnames, fun b hb => ?_⟩
    cases hb
    exact isBare_qualified h (List.mem_of_mem_filter ha)

namespace Place.Proper

variable {p : Place} {names : List String} {attr? : Option String}

/-- So the at sign in a key can only be the one in front of an attribute. -/
theorem not_mem_pathOf (h : ∀ n ∈ names, IsBare n) :
    '@' ∉ (pathOf names).toList := by
  rw [pathOf, String.toList_ofList, pathText]
  simp only [List.mem_flatMap, List.mem_map, List.mem_cons]
  rintro ⟨_, ⟨n, hn, rfl⟩, hc | hc⟩
  · cases hc
  · exact (h n hn).2 hc

/-- The text of a path belongs to one place. -/
theorem path_eq_iff (hp : p.Proper) (hn : ∀ n ∈ names, IsBare n) :
    p.found.path = pathOf names ++ mark attr?
      ↔ p.names = names ∧ p.attr = attr? := by
  rw [← String.toList_inj, found, String.toList_append,
    String.toList_append, append_mark_inj (not_mem_pathOf hp.names)
      (not_mem_pathOf hn)]
  refine and_congr_left fun _ => ?_
  rw [pathOf, pathOf, String.toList_ofList, String.toList_ofList,
    pathText_inj (by simpa using fun n h => (hp.names n h).1)
      (by simpa using fun n h => (hn n h).1)]
  exact (List.map_injective_iff.mpr fun _ _ => String.toList_inj.mp).eq_iff

/-- The text of a path ends with those of the paths that its names end
with. -/
theorem path_suffix_iff (hp : p.Proper) (hne : names ≠ [])
    (hn : ∀ n ∈ names, IsBare n) :
    (before? (pathOf names ++ mark attr?).toList
        p.found.path.toList).isSome = true
      ↔ names <:+ p.names ∧ p.attr = attr? := by
  obtain ⟨n, rest, rfl⟩ := List.exists_cons_of_ne_nil hne
  have hbegins : (pathOf (n :: rest)).toList
      = '/' :: (n.toList ++ pathText (rest.map String.toList)) := by
    rw [pathOf, String.toList_ofList, List.map_cons, pathText,
      List.flatMap_cons]
    rfl
  have hat := not_mem_pathOf hn
  rw [isSome_before?_iff, found, String.toList_append,
    String.toList_append, hbegins, append_mark_suffix_iff (hbegins ▸ hat)
      (not_mem_pathOf hp.names) fun b hb => (hp.attr b hb).1,
    ← hbegins, pathOf, pathOf, String.toList_ofList, String.toList_ofList,
    pathText_suffix_iff (by simp)
      (by simpa using fun m h => (hn m h).1)
      (by simpa using fun m h => (hp.names m h).1),
    List.suffix_map_iff_of_injective fun _ _ => String.toList_inj.mp,
    eq_comm]

/-- The text of a name belongs to the places with that name. -/
theorem name_eq_iff (hp : p.Proper) {last : String} (hlast : IsBare last) :
    p.found.name = last ++ mark attr?
      ↔ p.names.getLast? = some last ∧ p.attr = attr? := by
  obtain ⟨n, hget⟩ : ∃ n, p.names.getLast? = some n :=
    Option.isSome_iff_exists.mp (by simpa using hp.ne_nil)
  have hbare := hp.names n (List.mem_of_getLast? hget)
  rw [← String.toList_inj, found, hget, Option.getD_some,
    String.toList_append, String.toList_append,
    append_mark_inj hbare.2 hlast.2, String.toList_inj, Option.some.injEq]

end Place.Proper

-- ============================================================== fields

/-- The names of a field: what stands between the slashes and dots in
front of its first `@`, empty texts left out. -/
def fieldNames (field : String) : List String :=
  ((splitWhere (fun c => c == '/' || c == '.')
    ((trimList field.toList).takeWhile (· != '@'))).filter
      (!·.isEmpty)).map String.ofList

/-- The attribute of a field: what stands behind its first `@`. -/
def fieldAttribute? (field : String) : Option String :=
  match (trimList field.toList).dropWhile (· != '@') with
  | [] => none
  | _ :: attr => some (String.ofList attr)

theorem ne_at_of_not_mem {cs : List Char} (h : '@' ∉ cs) :
    ∀ c ∈ cs, (c != '@') = true :=
  fun _ hc => bne_iff_ne.mpr fun heq => h (heq ▸ hc)

/-- A field is parted at its first at sign, and in front of that at slashes and
dots. -/
theorem splitField_eq (field : String) :
    splitField field = (fieldNames field, mark (fieldAttribute? field)) := by
  unfold splitField fieldNames fieldAttribute?
  cases hs : splitFirst? '@' (trimList field.toList) with
  | none =>
      have hat := ne_at_of_not_mem (splitFirst?_eq_none_iff.mp hs)
      simp only [hs]
      rw [List.takeWhile_eq_self_iff.mpr hat,
        List.dropWhile_eq_nil_iff.mpr hat]
      rfl
  | some parts =>
      obtain ⟨element, attr⟩ := parts
      obtain ⟨hcs, hat⟩ := splitFirst?_eq_some_iff.mp hs
      have hfront := ne_at_of_not_mem hat
      simp only [hs]
      rw [hcs, List.takeWhile_append_of_pos hfront,
        List.dropWhile_append_of_pos hfront,
        List.takeWhile_cons_of_neg (by simp),
        List.dropWhile_cons_of_neg (by simp), List.append_nil]
      rfl

/-- The names of a field are bare. -/
theorem isBare_of_mem_fieldNames {field n : String}
    (h : n ∈ fieldNames field) : IsBare n := by
  obtain ⟨part, hpart, rfl⟩ := List.mem_map.mp h
  have hchars := fun c (hc : c ∈ part) =>
    mem_of_mem_splitWhere (List.mem_of_mem_filter hpart) hc
  rw [IsBare, String.toList_ofList]
  refine ⟨fun hc => ?_, fun hc => ?_⟩
  · simpa using (hchars _ hc).2
  · simpa using List.mem_takeWhile_imp (hchars _ hc).1

/-- The names of a field are no longer than it. -/
theorem length_le_of_mem_fieldNames {field n : String}
    (h : n ∈ fieldNames field) : n.length ≤ field.length := by
  obtain ⟨part, hpart, rfl⟩ := List.mem_map.mp h
  have hsub := (sublist_of_mem_splitWhere (List.mem_of_mem_filter hpart)).trans
    ((List.takeWhile_sublist _).trans (sublist_trimList field.toList))
  rw [String.length_ofList, ← String.length_toList]
  exact hsub.length_le

/-- A bare name is a field with this name. -/
theorem fieldNames_of_isBare {name : String} (hname : IsBare name)
    (hdot : '.' ∉ name.toList) (hne : name ≠ "")
    (hblank : ∀ c ∈ name.toList, isBlank c = false) :
    fieldNames name = [name] ∧ fieldAttribute? name = none := by
  have hat := ne_at_of_not_mem hname.2
  have hwhole : splitWhere (fun c => c == '/' || c == '.') name.toList
      = [name.toList] := by
    refine splitWhere_of_forall fun c hc => ?_
    have hslash : c ≠ '/' := fun h => hname.1 (h ▸ hc)
    have hdots : c ≠ '.' := fun h => hdot (h ▸ hc)
    simp [hslash, hdots]
  rw [fieldNames, fieldAttribute?, trimList_of_forall hblank,
    List.takeWhile_eq_self_iff.mpr hat, List.dropWhile_eq_nil_iff.mpr hat,
    hwhole]
  simp [hne]

-- ============================================================== values

/-- The value at the first place of some kind. -/
def first? (ps : List Place) (at? : Place → Bool) : Option String :=
  (ps.find? at?).map (·.value)

variable {ps : List Place}

/-- The first place for a field does not depend on how it is told. -/
theorem first?_congr {at? : Place → Bool} {P : Place → Prop}
    [DecidablePred P] (h : ∀ p ∈ ps, at? p = true ↔ P p) :
    first? ps at? = first? ps fun p => P p := by
  refine congrArg (Option.map Place.value)
    (List.find?_congr fun p hp => ?_)
  rw [Bool.eq_iff_iff, decide_eq_true_iff]
  exact h p hp

/-- A snapshot has the values that are recorded, with their paths. -/
theorem values_recorded (ps : List Place) :
    (recorded ps).values = ps.map fun p => (p.found.path, p.value) := by
  have hfold : (recorded ps).values
      = (ps.map Place.found).foldl (fun vs f => vs ++ [(f.path, f.value)])
        [] :=
    (List.foldl_hom Snapshot.values fun _ _ => rfl).symm
  rw [hfold, List.foldl_append_eq_append, ← List.flatMap_def,
    List.flatMap_map, List.map_eq_flatMap]
  rfl

/-- A table that keeps the first value of each key has the value at the first
place with the key. -/
theorem find?_recorded (table : Snapshot → Table String)
    (key : Found → String) (hempty : table {} = [])
    (hrecord : ∀ s f, table (record s f)
      = Table.insertNew (key f) f.value (table s))
    (ps : List Place) (k : String) :
    Table.find? k (table (recorded ps))
      = first? ps fun p => key p.found == k := by
  have hfold : table (recorded ps) = (ps.map Place.found).foldl
      (fun t f => Table.insertNew (key f) f.value t) (table {}) :=
    (List.foldl_hom table fun s f => (hrecord s f).symm).symm
  rw [hfold, hempty, Table.find?_foldl_insertNew, List.find?_map,
    Option.map_map]
  rfl

/-- What a snapshot holds under a path, or at a path that ends like it, or
under a name. -/
theorem get?_recorded_eq (ps : List Place) (field : String) :
    let names := fieldNames field
    let suffix := mark (fieldAttribute? field)
    (recorded ps).get? field = names.getLast?.bind fun last =>
      (first? ps fun p => p.found.path == pathOf names ++ suffix)
        <|> (if names.length > 1 then
            first? ps fun p => (before? (pathOf names ++ suffix).toList
              p.found.path.toList).isSome
          else none)
        <|> first? ps fun p => p.found.name == last ++ suffix := by
  intro names suffix
  have hpath := find?_recorded Snapshot.byPath Found.path rfl
    (fun _ _ => rfl) ps
  have hname := find?_recorded Snapshot.byName Found.name rfl
    (fun _ _ => rfl) ps
  have hending : ∀ key : String,
      (((recorded ps).values.find? fun v =>
        (before? key.toList v.1.toList).isSome).map (·.2))
      = first? ps fun p =>
          (before? key.toList p.found.path.toList).isSome := by
    intro key
    rw [values_recorded, List.find?_map, Option.map_map]
    rfl
  unfold get?
  simp only [splitField_eq]
  cases hlast : names.getLast? with
  | none => rfl
  | some last =>
      have hne : fieldNames field ≠ [] := fun h => by simp [h, names] at hlast
      simp only [names] at hlast
      simp only [← pathOf_eq_join hne, hpath, hname, hending]
      rfl

/-- Where names are bare, a field has the value at the first place with its
names, or else, if it has several, at the first place whose names end with
them, or else at the first place with the last one. -/
theorem get?_recorded (hproper : ∀ p ∈ ps, p.Proper) (field : String) :
    let names := fieldNames field
    let attr? := fieldAttribute? field
    (recorded ps).get? field = names.getLast?.bind fun last =>
      (first? ps fun p => p.names = names ∧ p.attr = attr?)
        <|> (if names.length > 1 then
            first? ps fun p => names <:+ p.names ∧ p.attr = attr?
          else none)
        <|> first? ps fun p =>
          p.names.getLast? = some last ∧ p.attr = attr? := by
  intro names attr?
  have hfields : ∀ n ∈ names, IsBare n := fun n hn =>
    isBare_of_mem_fieldNames hn
  rw [get?_recorded_eq]
  refine Option.bind_congr fun last hlast => ?_
  have hmem := List.mem_of_getLast? hlast
  have hpath : (first? ps fun p =>
        p.found.path == pathOf names ++ mark attr?)
      = first? ps fun p => p.names = names ∧ p.attr = attr? :=
    first?_congr fun p hp => beq_iff_eq.trans
      ((hproper p hp).path_eq_iff hfields)
  have hending : (first? ps fun p =>
        (before? (pathOf names ++ mark attr?).toList
          p.found.path.toList).isSome)
      = first? ps fun p => names <:+ p.names ∧ p.attr = attr? :=
    first?_congr fun p hp =>
      (hproper p hp).path_suffix_iff (List.ne_nil_of_mem hmem) hfields
  have hname : (first? ps fun p => p.found.name == last ++ mark attr?)
      = first? ps fun p =>
        p.names.getLast? = some last ∧ p.attr = attr? :=
    first?_congr fun p hp => beq_iff_eq.trans
      ((hproper p hp).name_eq_iff (hfields last hmem))
  rw [hpath, hending, hname]

-- =========================================================== one value

/-- The place of a name alone. -/
def Place.alone (name value : String) : Place := ⟨[name], none, value⟩

/-- A value put under a name into an empty snapshot is the only one there,
at this name alone. -/
theorem insert_eq_recorded {name : String} (hname : IsBare name)
    (value : String) :
    ({} : Snapshot).insert name value
      = recorded [Place.alone name value] := by
  have hpath : (Place.alone name value).found.path = "/" ++ name := by
    simp [Place.alone, Place.found, mark, pathOf_eq_join, join]
  have hslash : (name.toList.head? == some '/') = false := by
    simp only [beq_eq_false_iff_ne, ne_eq]
    exact fun h => hname.1 (List.mem_of_mem_head? h)
  have hlast : splitLast? '/' ("/" ++ name).toList = some ([], name.toList) :=
    splitLast?_eq_some_iff.mpr
      ⟨by rw [String.toList_append]; rfl, hname.1⟩
  rw [recorded, List.map_singleton, List.foldl_cons, List.foldl_nil, insert,
    record, hpath]
  simp only [hslash, Bool.false_eq_true, if_false, hlast,
    String.ofList_toList]
  simp [Place.alone, Place.found, mark, Table.insert, Table.insertNew,
    Table.has, Table.find?]

theorem proper_alone {name : String} (hname : IsBare name) (value : String) :
    ∀ p ∈ [Place.alone name value], p.Proper :=
  List.forall_mem_singleton.mpr
    ⟨nofun, by simpa [Place.alone] using hname, fun a ha => (nomatch ha)⟩

/-- Where there is one value, at some name, the field that is this name has
it. -/
theorem get?_insert_self {name : String} (hname : IsBare name)
    (hdot : '.' ∉ name.toList) (hne : name ≠ "")
    (hblank : ∀ c ∈ name.toList, isBlank c = false) (value : String) :
    (({} : Snapshot).insert name value).get? name = some value := by
  obtain ⟨hnames, hattr⟩ := fieldNames_of_isBare hname hdot hne hblank
  rw [insert_eq_recorded hname, get?_recorded (proper_alone hname value),
    hnames, hattr]
  simp [first?, Place.alone]

/-- Where there is one value, at some name, only fields with this name have
a value. -/
theorem mem_fieldNames_of_get?_insert {name value field : String}
    (hname : IsBare name)
    (h : (({} : Snapshot).insert name value).get? field ≠ none) :
    name ∈ fieldNames field := by
  rw [insert_eq_recorded hname,
    get?_recorded (proper_alone hname value)] at h
  generalize fieldNames field = names at h ⊢
  by_contra hnot
  have hno : ∀ (P : Place → Prop) [DecidablePred P],
      (P (Place.alone name value) → name ∈ names) →
        first? [Place.alone name value] (fun p => P p) = none := by
    intro P hP himp
    simp [first?, mt himp hnot]
  cases hlast : names.getLast? with
  | none => exact h (by rw [hlast]; rfl)
  | some last =>
      have hmem := List.mem_of_getLast? hlast
      refine h ?_
      rw [hlast, Option.bind_some, hno, hno, hno, ite_self]
      · rfl
      · intro hat
        obtain rfl : name = last := Option.some.inj hat.1
        exact hmem
      · intro hat
        exact List.mem_singleton.mp (hat.1.subset hmem) ▸ hmem
      · intro hat
        exact hat.1 ▸ List.mem_singleton_self name

-- ============================================================ documents

/-- The way to an element below the root has several names. -/
theorem trail_ne_singleton (hl : doc.Linked) (hs : doc.Sound) {i : Nat}
    (hi : i ∈ doc.descendants doc.root) (name : String) :
    doc.trail i ≠ [name] := by
  obtain ⟨-, hreach, hne⟩ := (hl.mem_descendants_iff hs).mp hi
  obtain heq | ⟨q, -, hq⟩ := Relation.ReflTransGen.cases_tail hreach
  · exact absurd heq hne
  obtain ⟨above, habove⟩ := exists_trail doc q
  rw [trail_of_parent hl (hl.mem_children_iff.mp hq), habove]
  exact fun h => by simpa using congrArg List.length h

/-- The values with a name that is the whole way to them are those at the
root, which come first. -/
theorem first?_name (hl : doc.Linked) (hs : doc.Sound) (name : String)
    (attr? : Option String) :
    ((first? doc.places fun p => p.names = [name] ∧ p.attr = attr?)
      <|> first? doc.places fun p =>
        p.names.getLast? = some name ∧ p.attr = attr?)
      = first? doc.places fun p =>
        p.names.getLast? = some name ∧ p.attr = attr? := by
  have hnames : ∀ {i : Nat}, ∀ p ∈ doc.placesAt i, p.names = doc.trail i := by
    intro i p hp
    rcases List.mem_append.mp hp with hp | hp
    · obtain ⟨t, -, rfl⟩ := Option.map_eq_some_iff.mp
        (Option.mem_toList.mp hp)
      rfl
    · obtain ⟨a, -, rfl⟩ := List.mem_map.mp hp
      rfl
  have hroot : (doc.placesAt doc.root).find?
        (fun p => p.names = [name] ∧ p.attr = attr?)
      = (doc.placesAt doc.root).find? fun p =>
        p.names.getLast? = some name ∧ p.attr = attr? := by
    refine List.find?_congr fun p hp => ?_
    have htrail : p.names = [doc.localName doc.root] := by
      rw [hnames p hp]
      simp [Document.trail, Document.lineage_of_none hl.root]
    simp [htrail]
  have hbelow : ((doc.descendants doc.root).flatMap doc.placesAt).find?
      (fun p => p.names = [name] ∧ p.attr = attr?) = none := by
    rw [List.find?_eq_none]
    intro p hp hat
    obtain ⟨i, hi, hp⟩ := List.mem_flatMap.mp hp
    refine trail_ne_singleton hl hs hi name ?_
    rw [← hnames p hp]
    exact (of_decide_eq_true hat).1
  rw [first?, first?, Document.places, Document.elements, List.flatMap_cons,
    List.find?_append, List.find?_append, hroot, hbelow]
  cases (doc.placesAt doc.root).find? fun p =>
    decide (p.names.getLast? = some name ∧ p.attr = attr?) <;> rfl

/-- A snapshot of a document that was read has the values of the document,
element after element, each at its place. A field with one name has the
first value at an element of that name, or of an attribute there. A field
with several names has the value at the first place with these names, or
else at the first place whose names end with them; if there is no such
place, it has the first value at the last one of its names, wherever that
is. -/
theorem get?_capture {text : String} (h : Document.parse text = some doc)
    (field : String) :
    (capture doc).values
        = doc.places.map (fun p => (p.found.path, p.value))
      ∧ (capture doc).get? field =
        let attr? := fieldAttribute? field
        match fieldNames field with
        | [] => none
        | [name] => first? doc.places fun p =>
            p.names.getLast? = some name ∧ p.attr = attr?
        | names =>
            (first? doc.places fun p => p.names = names ∧ p.attr = attr?)
              <|> (first? doc.places fun p =>
                names <:+ p.names ∧ p.attr = attr?)
              <|> first? doc.places fun p =>
                p.names.getLast? = names.getLast? ∧ p.attr = attr? := by
  have hl := Document.linked_of_parse h
  have hs := Document.sound_of_parse h
  have hget := get?_recorded (fun p hp => proper_of_mem_places h hp) field
  rw [capture_eq hl hs]
  refine ⟨values_recorded _, hget.trans ?_⟩
  generalize fieldNames field = names
  generalize fieldAttribute? field = attr?
  match names with
  | [] => rfl
  | [name] => exact first?_name hl hs name attr?
  | m :: n :: rest =>
      obtain ⟨last, hlast⟩ : ∃ last, (m :: n :: rest).getLast? = some last :=
        Option.isSome_iff_exists.mp (by simp)
      have hmany : (m :: n :: rest).length > 1 := by simp
      simp only [hlast, Option.bind_some, hmany, if_true]

/-- A place whose names end with those of the field, behind one that has the
last name only. -/
theorem get?_capture_ending :
    ∃ doc, Document.parse "<r><x>1</x><d><c><x>2</x></c></d></r>" = some doc
      ∧ (capture doc).get? "c.x" = some "2" := by
  have hsome : (Document.parse
      "<r><x>1</x><d><c><x>2</x></c></d></r>").isSome = true := by
    decide +kernel
  have hplaces : ((Document.parse
        "<r><x>1</x><d><c><x>2</x></c></d></r>").get hsome).places
      = [⟨["r", "x"], none, "1"⟩, ⟨["r", "d", "c", "x"], none, "2"⟩] := by
    decide +kernel +revert
  have hnames : fieldNames "c.x" = ["c", "x"] := by decide
  have hget := (get?_capture (Option.some_get hsome).symm "c.x").2
  refine ⟨_, (Option.some_get hsome).symm, hget.trans ?_⟩
  simp only [hnames, first?, hplaces]
  decide

/-- Without such a place the field has the value of a place that the last
of its names is the name of. -/
theorem get?_elsewhere :
    ∃ doc, Document.parse "<r><a><x>1</x></a><b/></r>" = some doc
      ∧ fieldNames "b/x" = ["b", "x"] ∧ fieldAttribute? "b/x" = none
      ∧ (∀ p ∈ doc.places, ¬ ["b", "x"] <:+ p.names)
      ∧ (capture doc).get? "b/x" = some "1" := by
  have hsome : (Document.parse "<r><a><x>1</x></a><b/></r>").isSome
      = true := by
    decide +kernel
  refine ⟨_, (Option.some_get hsome).symm, by decide, by decide, ?_⟩
  decide +kernel +revert

end Snapshot

end Overlay
