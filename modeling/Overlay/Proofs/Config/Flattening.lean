/-
Rows made of nested objects.

# Leaves

A leaf of an object is a value at the end of a way through its keys that is
no object itself. `trails` lists the leaves in source order, each with the
keys on the way to it, without making names of them. Where no object has a
key twice, as in all that is read, all ways are different
(`nodup_trailsOf`), and they lead to just the values that are no objects
(`mem_trails_iff`).

# Names

The name of a leaf is made of its keys, with dots between them
(`foldl_dotted`). Different ways can come to one name, since a key may have
dots of its own. The row holds one text under each name, that of the last
leaf (`Flattened`), so that nothing is lost exactly if all names are
different. They are if no key has a dot (`nodup_fieldNames`).
-/
import Mathlib
import Overlay.Config.Template
import Overlay.Proofs.Config.Accepting
import Overlay.Proofs.Json.Reading
import Overlay.Proofs.Table
import Overlay.Proofs.Text.Cutting

namespace Overlay

open Text

-- ============================================================== leaves

namespace Json

mutual

/-- The leaves at and below a value, each with the keys on the way to it, in
source order. -/
def trailsOf : Json → List (List String × Json)
  | .object fields => trails fields
  | v => [([], v)]

/-- The leaves below the fields of an object, each with the keys on the way
to it, in source order. -/
def trails : List (String × Json) → List (List String × Json)
  | [] => []
  | (k, v) :: rest =>
    (trailsOf v).map (fun leaf => (k :: leaf.1, leaf.2)) ++ trails rest

end

/-- The value at the end of a way through keys. -/
def at? (path : List String) (v : Json) : Option Json :=
  path.foldlM (fun v key => v.field? key) v

variable {fields : Fields} {path : List String} {v w : Json}

theorem trailsOf_of_leaf (h : v.object? = none) :
    trailsOf v = [([], v)] := by
  cases v with
  | object => cases h
  | _ => rw [trailsOf]; nofun

/-- The trails of an object are those of its fields in order, each behind the
name of its field. -/
theorem trails_eq_flatMap (fields : Fields) :
    trails fields = fields.flatMap fun e =>
      (trailsOf e.2).map fun leaf => (e.1 :: leaf.1, leaf.2) := by
  induction fields with
  | nil => rw [trails, List.flatMap_nil]
  | cons e rest ih => rw [trails, ih, List.flatMap_cons]

theorem at?_cons (key : String) (path : List String) (v : Json) :
    at? (key :: path) v = (v.field? key).bind (at? path) :=
  List.foldlM_cons ..

theorem trail_ne_nil (h : (path, v) ∈ trails fields) : path ≠ [] := by
  rw [trails_eq_flatMap, List.mem_flatMap] at h
  obtain ⟨e, -, h⟩ := h
  obtain ⟨leaf, -, h⟩ := List.mem_map.mp h
  cases h
  nofun

/-- Below a value that is no object there is nothing. -/
theorem mem_leaf_iff (h : v.object? = none) :
    (path, w) ∈ trailsOf v ↔ at? path v = some w ∧ w.object? = none := by
  rw [trailsOf_of_leaf h, List.mem_singleton, Prod.mk.injEq]
  constructor
  · rintro ⟨rfl, rfl⟩
    exact ⟨rfl, h⟩
  · rintro ⟨hat, -⟩
    cases path with
    | nil =>
        cases hat
        exact ⟨rfl, rfl⟩
    | cons key path =>
        have hfield : v.field? key = none := by
          cases v with
          | object => cases h
          | _ => rfl
        rw [at?_cons, hfield] at hat
        cases hat

/-- A trail is a way down to something that is no object. Where two fields of
an object had one name the second could not be reached, which is why names must
differ. -/
theorem mem_trailsOf_iff (h : WellFormed v) :
    (path, w) ∈ trailsOf v ↔ at? path v = some w ∧ w.object? = none := by
  induction h generalizing path with
  | list => exact mem_leaf_iff rfl
  | scalar _ hnone => exact mem_leaf_iff hnone
  | @object fields hkeys _ ih =>
      have hfind : ∀ {key : String} {u : Json},
          (Json.object fields).field? key = some u ↔ (key, u) ∈ fields :=
        Table.find?_eq_some_iff_mem hkeys
      rw [trailsOf, trails_eq_flatMap, List.mem_flatMap]
      constructor
      · rintro ⟨⟨key, u⟩, hmem, h⟩
        obtain ⟨⟨rest, w'⟩, hleaf, h⟩ := List.mem_map.mp h
        cases h
        rw [at?_cons, hfind.mpr hmem, Option.bind_some]
        exact (ih (key, u) hmem).mp hleaf
      · rintro ⟨hat, hnone⟩
        cases path with
        | nil =>
            cases hat
            cases hnone
        | cons key path =>
            rw [at?_cons, Option.bind_eq_some_iff] at hat
            obtain ⟨u, hu, hat⟩ := hat
            have hmem := hfind.mp hu
            exact ⟨(key, u), hmem, List.mem_map.mpr
              ⟨(path, w), (ih (key, u) hmem).mpr ⟨hat, hnone⟩, rfl⟩⟩

/-- No two leaves are at the end of the same way. -/
theorem nodup_trailsOf (h : WellFormed v) :
    ((trailsOf v).map Prod.fst).Nodup := by
  induction h with
  | list =>
      rw [trailsOf_of_leaf rfl]
      exact List.nodup_singleton _
  | scalar _ hnone =>
      rw [trailsOf_of_leaf hnone]
      exact List.nodup_singleton _
  | @object fields hkeys _ ih =>
      have hpaths : (trails fields).map Prod.fst = fields.flatMap fun e =>
          ((trailsOf e.2).map Prod.fst).map (e.1 :: ·) := by
        rw [trails_eq_flatMap, List.map_flatMap]
        simp only [List.map_map]
        rfl
      rw [trailsOf, hpaths, List.nodup_flatMap]
      constructor
      · exact fun e he => (ih e he).map List.cons_injective
      · -- ways through different keys of one object are different
        refine (List.pairwise_map.mp hkeys).imp fun hne path hp hq => ?_
        obtain ⟨_, -, rfl⟩ := List.mem_map.mp hp
        obtain ⟨_, -, hq⟩ := List.mem_map.mp hq
        exact hne (List.cons.inj hq).1.symm

/-- The leaves of an object are the values in it that are no objects, at
whatever depth. -/
theorem mem_trails_iff (h : WellFormed (.object fields)) :
    (path, v) ∈ trails fields
      ↔ at? path (.object fields) = some v ∧ v.object? = none := by
  rw [← mem_trailsOf_iff h, trailsOf]

end Json

-- =============================================================== names

namespace Config

open Json

variable {fields : Json.Fields}

/-- Below a name, the keys on a way follow with dots in front. -/
theorem foldl_dotted {above : String} (h : above ≠ "") (path : List String) :
    path.foldl dotted above = join "." (above :: path) := by
  induction path generalizing above with
  | nil => exact (String.intercalate_singleton).symm
  | cons key path ih =>
      have hdotted : dotted above key = above ++ "." ++ key :=
        if_neg (by simpa using h)
      have hne : dotted above key ≠ "" := by
        rw [hdotted]
        intro he
        have := congrArg String.toList he
        simp at this
      rw [List.foldl_cons, ih hne, hdotted, join, join,
        String.intercalate_cons_cons]
      cases path with
      | nil => rw [String.intercalate_singleton, String.intercalate_singleton]
      | cons next path =>
          rw [String.intercalate_cons_cons, String.intercalate_cons_cons]
          simp only [String.append_assoc]

mutual

/-- The program carries the dotted name along instead of the trail: at a leaf
it is the trail folded onto what was above. -/
theorem leavesOf_eq (name : String) : (v : Json) →
    leavesOf name v
      = (trailsOf v).map fun leaf => (leaf.1.foldl dotted name, leaf.2)
  | .object fields => by rw [leavesOf, trailsOf, leaves_eq]
  | .null | .bool _ | .integer _ | .real _ | .text _ | .list _ => by
      rw [leavesOf, trailsOf] <;> first | rfl | nofun

/-- The same for the fields of an object. -/
theorem leaves_eq (above : String) : (fields : List (String × Json)) →
    leaves above fields
      = (trails fields).map fun leaf => (leaf.1.foldl dotted above, leaf.2)
  | [] => by rw [leaves, trails, List.map_nil]
  | (k, v) :: rest => by
      rw [leaves, trails, List.map_append, List.map_map, leavesOf_eq,
        leaves_eq above rest]
      rfl

end

/-- Whether a way does not begin with an empty key that others follow. -/
def BeginsNamed (path : List String) : Prop :=
  path.head? = some "" → path.tail = []

instance (path : List String) : Decidable (BeginsNamed path) :=
  inferInstanceAs (Decidable (_ → _))

/-- The name of a leaf is made of its keys, with dots between them. -/
theorem foldl_dotted_empty {path : List String} (hne : path ≠ [])
    (h : BeginsNamed path) : path.foldl dotted "" = join "." path := by
  obtain ⟨key, path, rfl⟩ := List.exists_cons_of_ne_nil hne
  rw [List.foldl_cons]
  by_cases hkey : key = ""
  · obtain rfl : path = [] := h (congrArg some hkey)
    exact (String.intercalate_singleton).symm
  · exact foldl_dotted hkey path

/-- Keys without dots are read off a name again. -/
theorem join_injective {path other : List String} (hne : path ≠ [])
    (hother : other ≠ []) (hdots : ∀ key ∈ path, '.' ∉ key.toList)
    (hdots' : ∀ key ∈ other, '.' ∉ key.toList)
    (h : join "." path = join "." other) : path = other := by
  have hsplit : ∀ {keys : List String}, keys ≠ [] →
      (∀ key ∈ keys, '.' ∉ key.toList) →
      splitOn '.' (join "." keys).toList = keys.map String.toList := by
    intro keys hne hdots
    rw [join, String.toList_intercalate]
    exact splitOn_intercalate (by simpa using hne) (by simpa using hdots)
  have hmap := (hsplit hne hdots).symm.trans (h ▸ hsplit hother hdots')
  exact List.map_injective_iff.mpr (fun _ _ => String.toList_inj.mp) hmap

-- ================================================================ rows

/-- What a row and the names of its fields have to do with leaves. -/
structure Flattened (leaves : List (List String × Json))
    (names : List String) (row : Row) : Prop where
  /-- There is one name for each leaf, in the same order, and it is made of
  the keys of the leaf. -/
  named : List.Forall₂
    (fun leaf name => BeginsNamed leaf.1 → name = join "." leaf.1) leaves names
  /-- Under a name stands the text of the last leaf with that name. -/
  last : ∀ name, Table.find? name row
    = Table.find? name
        (names.zip (leaves.map fun leaf => scalarText leaf.2)).reverse
  /-- There are no other fields, and none comes twice. -/
  ordered : Table.Ordered row
  length_eq : row.length = names.dedup.length

/-- So the detected fields are the folded trails in order, also where two of
them come to one name. -/
theorem fieldNames_eq (fields : Json.Fields) :
    fieldNames fields
      = (trails fields).map fun leaf => leaf.1.foldl dotted "" := by
  rw [fieldNames, leaves_eq, List.map_map]
  rfl

/-- The row is built from names and texts in pairs, each put in its place in
turn. -/
theorem flatten_eq (fields : Json.Fields) :
    flatten fields
      = ((fieldNames fields).zip
          ((trails fields).map fun leaf => scalarText leaf.2)).foldl
            (fun row e => Table.insertOrdered e.1 e.2 row) [] := by
  rw [flatten, fieldNames_eq, List.zip_map', leaves_eq, List.foldl_map,
    List.foldl_map]

/-- Of fields with one name the last one is in the row: it was put over the
others. -/
theorem find?_flatten (fields : Json.Fields) (name : String) :
    Table.find? name (flatten fields)
      = Table.find? name ((fieldNames fields).zip
          ((trails fields).map fun leaf => scalarText leaf.2)).reverse := by
  rw [flatten_eq, Table.find?_foldl_insertOrdered]

/-- No field is lost from the row, and none is there that was not detected. -/
theorem mem_names_flatten {name : String} :
    name ∈ Table.names (flatten fields) ↔ name ∈ fieldNames fields := by
  have hlength : (fieldNames fields).length
      ≤ ((trails fields).map fun leaf => scalarText leaf.2).length := by
    rw [fieldNames_eq, List.length_map, List.length_map]
  rw [← not_iff_not, ← Table.find?_eq_none_iff, find?_flatten,
    Table.find?_eq_none_iff, Table.names, List.map_reverse,
    List.mem_reverse, List.map_fst_zip hlength]

/-- The row of an object in full. -/
theorem flattened (fields : Json.Fields) :
    Flattened (trails fields) (fieldNames fields) (flatten fields) where
  named := by
    rw [fieldNames_eq, List.forall₂_map_right_iff, List.forall₂_same]
    exact fun leaf hleaf => foldl_dotted_empty (trail_ne_nil hleaf)
  last := find?_flatten fields
  ordered := flatten_eq fields ▸ Table.ordered_foldl_insertOrdered _
  length_eq := by
    have hordered : Table.Ordered (flatten fields) :=
      flatten_eq fields ▸ Table.ordered_foldl_insertOrdered _
    have hperm := (List.perm_ext_iff_of_nodup
      (List.Pairwise.imp (fun h => h.ne) hordered)
      (fieldNames fields).nodup_dedup).mpr fun name => by
        rw [mem_names_flatten, List.mem_dedup]
    rw [← hperm.length_eq, Table.names, List.length_map]

/-- All names are different if no key has a dot. -/
theorem nodup_fieldNames (h : WellFormed (.object fields))
    (hdots : ∀ leaf ∈ trails fields, ∀ key ∈ leaf.1, '.' ∉ key.toList)
    (hnamed : ∀ leaf ∈ trails fields, BeginsNamed leaf.1) :
    (fieldNames fields).Nodup := by
  rw [fieldNames_eq]
  have hpaths := nodup_trailsOf h
  rw [trailsOf, List.nodup_iff_pairwise_ne, List.pairwise_map] at hpaths
  refine List.pairwise_map.mpr (hpaths.imp_of_mem ?_)
  intro leaf other hleaf hother hne heq
  have hpath := trail_ne_nil hleaf
  have hpath' := trail_ne_nil hother
  rw [foldl_dotted_empty hpath (hnamed leaf hleaf),
    foldl_dotted_empty hpath' (hnamed other hother)] at heq
  exact hne (join_injective hpath hpath' (hdots leaf hleaf)
    (hdots other hother) heq)

/-- Where all names are different, every leaf stands under its name. -/
theorem Flattened.find? {leaves : List (List String × Json)}
    {names : List String} {row : Row} (h : Flattened leaves names row)
    (hnodup : names.Nodup) {leaf : List String × Json} (hleaf : leaf ∈ leaves)
    (hnamed : BeginsNamed leaf.1) :
    Table.find? (join "." leaf.1) row = some (scalarText leaf.2) := by
  have hlength := h.named.length_eq
  obtain ⟨i, hi, rfl⟩ := List.mem_iff_getElem.mp hleaf
  have hi' : i < names.length := hlength ▸ hi
  have hname : names[i] = join "." leaves[i].1 :=
    h.named.get hi hi' hnamed
  have hentries : (Table.names (names.zip
      (leaves.map fun leaf => scalarText leaf.2)).reverse).Nodup := by
    rw [Table.names, List.map_reverse, List.nodup_reverse, List.map_fst_zip]
    · exact hnodup
    · rw [List.length_map, hlength]
  rw [h.last, Table.find?_eq_some_iff_mem hentries, List.mem_reverse, ← hname]
  exact List.mem_iff_getElem.mpr ⟨i, by simpa using ⟨hi', hi⟩, by simp⟩

/-- As many fields as leaves are there exactly if all names are different. -/
theorem Flattened.length_eq_iff {leaves : List (List String × Json)}
    {names : List String} {row : Row} (h : Flattened leaves names row) :
    row.length = leaves.length ↔ names.Nodup := by
  rw [h.length_eq, h.named.length_eq]
  constructor
  · intro hlength
    exact List.dedup_eq_self.mp
      ((List.dedup_sublist names).eq_of_length hlength)
  · intro hnodup
    rw [hnodup.dedup]

/-- The objects of a list of rows are flattened, and the first row gives the
names of the fields. -/
theorem readRows_list (name : String) (items : List Json) :
    (readRows name (some (.list items))).value
      = ((items.filterMap Json.object?).map flatten,
        ((items.head?.bind Json.object?).map fieldNames).getD []) := by
  have hrow : ∀ row : Json × Nat,
      (readRow name row).value = row.1.object?.map flatten := by
    rintro ⟨v, i⟩
    cases v <;> rfl
  have hcollect : ∀ rows : List (Json × Nat),
      (Checked.collect (readRow name) rows).value
        = ((rows.map Prod.fst).filterMap Json.object?).map flatten := by
    intro rows
    induction rows with
    | nil => rfl
    | cons row rows ih =>
        show (readRow name row).value.toList
          ++ (Checked.collect (readRow name) rows).value = _
        rw [hrow, ih, List.map_cons, List.filterMap_cons]
        cases row.1.object? <;> rfl
  show ((Checked.collect (readRow name) items.zipIdx).value, _) = _
  rw [hcollect, List.zipIdx_map_fst]

/-- The template that comes from a list has a row for each object in it, and
takes its fields from the first where it declares none. -/
theorem readTemplate_list {name : String} {v : Json} {spec : TemplateSpec}
    {items : List Json}
    (h : (readTemplateSettings name v).value
      = some (spec, some (.list items))) :
    ∃ t, (readTemplate (name, v)).value = some t
      ∧ t.rows = (items.filterMap Json.object?).map flatten
      ∧ (spec.fields = [] → t.fields
        = ((items.head?.bind Json.object?).map fieldNames).getD []) := by
  have hrows := readRows_list name items
  simp only [readTemplate, Checked.value_bind, h, hrows]
  split <;> refine ⟨_, rfl, rfl, fun hnone => ?_⟩ <;> simp [hnone]

/-- What becomes of the leaves of a row. They are the values in it that are
no objects; the names of the fields are made of their keys, in the same
order; and each name has the text of its last leaf. Nothing is lost exactly
if all names are different, as they are if no key has a dot. The rows of a
template are made so, and the first one gives its names to the fields. -/
theorem row_of_leaves {fields : Json.Fields}
    (h : WellFormed (.object fields)) :
    let leaves := trails fields
    let names := fieldNames fields
    let row := flatten fields
    (∀ path v, (path, v) ∈ leaves
        ↔ at? path (.object fields) = some v ∧ v.object? = none)
      ∧ Flattened leaves names row
      ∧ (row.length = leaves.length ↔ names.Nodup)
      ∧ (names.Nodup → ∀ leaf ∈ leaves, BeginsNamed leaf.1 →
        Table.find? (join "." leaf.1) row = some (scalarText leaf.2))
      ∧ ((∀ leaf ∈ leaves, ∀ key ∈ leaf.1, '.' ∉ key.toList) →
        (∀ leaf ∈ leaves, BeginsNamed leaf.1) → names.Nodup)
      ∧ ∀ name v spec items,
        (readTemplateSettings name v).value
            = some (spec, some (.list (.object fields :: items))) →
          ∃ t, (readTemplate (name, v)).value = some t
            ∧ t.rows = row :: (items.filterMap Json.object?).map flatten
            ∧ (spec.fields = [] → t.fields = names) := by
  intro leaves names row
  have hflat := flattened fields
  refine ⟨fun path v => mem_trails_iff h, hflat, hflat.length_eq_iff,
    fun hnodup leaf hleaf => hflat.find? hnodup hleaf, nodup_fieldNames h,
    fun name v spec items hsettings => ?_⟩
  obtain ⟨t, ht, hrows, hfields⟩ := readTemplate_list hsettings
  exact ⟨t, ht, hrows, hfields⟩

/-- A row with a number, and a name that is made of two parts. -/
def person : Json.Fields :=
  [("id", .integer 7),
    ("name", .object [("first", .text "Ann"), ("last", .null)])]

/-- Three leaves make three fields. -/
theorem row_of_leaves_person :
    WellFormed (.object person)
      ∧ fieldNames person = ["id", "name.first", "name.last"]
      ∧ (flatten person).length = 3
      ∧ Table.find? "name.first" (flatten person) = some "Ann"
      ∧ ∃ t, (readTemplate ("people", .list [.object person])).value = some t
        ∧ t.rows = [flatten person]
        ∧ t.fields = ["id", "name.first", "name.last"] := by
  have hname := (WellFormed.empty.insert "first" (v := .text "Ann")
    (.scalar rfl rfl)).insert "last" (v := .null) (.scalar rfl rfl)
  have hwell : WellFormed (.object person) :=
    (WellFormed.empty.insert "id" (.scalar rfl rfl)).insert "name" hname
  obtain ⟨-, -, hlength, hfind, hnodup, hrow⟩ := row_of_leaves hwell
  have hleaves : trails person = [(["id"], .integer 7),
      (["name", "first"], .text "Ann"), (["name", "last"], .null)] := rfl
  have hnames : (fieldNames person).Nodup :=
    hnodup (by rw [hleaves]; decide) (by rw [hleaves]; decide)
  obtain ⟨t, ht, hfirst, hfields⟩ :=
    hrow "people" (.list [.object person]) _ [] rfl
  exact ⟨hwell, rfl, hlength.mpr hnames,
    hfind hnames (["name", "first"], .text "Ann") (by rw [hleaves]; simp)
      (by decide), t, ht, hfirst, hfields rfl⟩

/-- A key with a dot hides a leaf further down: two leaves have one name. -/
theorem dotted_key_hides_leaf :
    let fields : Json.Fields :=
      [("a.b", .text "1"), ("a", .object [("b", .text "2")])]
    WellFormed (.object fields)
      ∧ trails fields = [(["a.b"], .text "1"), (["a", "b"], .text "2")]
      ∧ flatten fields = [("a.b", "2")]
      ∧ fieldNames fields = ["a.b", "a.b"] := by
  intro fields
  have hinner := WellFormed.empty.insert "b" (v := .text "2") (.scalar rfl rfl)
  have hwell : WellFormed (.object fields) :=
    (WellFormed.empty.insert "a.b" (.scalar rfl rfl)).insert "a" hinner
  exact ⟨hwell, rfl, rfl, rfl⟩

end Config

end Overlay
