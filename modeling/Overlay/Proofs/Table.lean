/-
Tables, and those in the order of their names.

What is found under a name after a write does not ask for any order
(`find?_insertOrdered_self`, `find?_insertOrdered_of_ne`), and after many
writes it is the last one of the name (`find?_foldl_insertOrdered`). Where
no name comes twice, all entries are found (`find?_eq_some_iff_mem`), and a
write at the end of the table leaves it so (`nodup_names_insert`).

Order is what makes an entry the only one of its name: a table that is built
by `insertOrdered` names nothing twice, and a write to a name that is there
already moves no entry. So a view of the entries that the write does not
change is the same for the whole table (`map_insertOrdered`), and tables
that answer alike are the same (`Ordered.ext`).
-/
import Mathlib
import Overlay.Table

namespace Overlay.Table

variable {α β : Type} {name other : String} {value found : α} {t : Table α}

-- ============================================================= lookups

@[simp] theorem find?_insertOrdered_self (name : String) (value : α)
    (t : Table α) : find? name (insertOrdered name value t) = some value := by
  induction t with
  | nil => simp [insertOrdered, find?]
  | cons e rest ih =>
      obtain ⟨k, v⟩ := e
      rw [insertOrdered]
      split
      case isTrue => simp [find?]
      case isFalse =>
          by_cases hk : k = name <;> simp [find?, hk, ih]

/-- What is put into an ordered table is found there and does not hide other
names, whichever place it takes. -/
theorem find?_insertOrdered_of_ne (h : name ≠ other) (value : α)
    (t : Table α) :
    find? other (insertOrdered name value t) = find? other t := by
  induction t with
  | nil => simp [insertOrdered, find?, h]
  | cons e rest ih =>
      obtain ⟨k, v⟩ := e
      rw [insertOrdered]
      split
      case isTrue => rw [find?, if_neg (by simpa using h)]
      case isFalse =>
          by_cases hk : k = name
          · subst hk
            simp [find?, h]
          · rw [if_neg (by simpa using hk), find?, find?, ih]

/-- What is found is in the table. -/
theorem mem_of_find? (h : find? name t = some value) :
    (name, value) ∈ t := by
  induction t with
  | nil => cases h
  | cons e rest ih =>
      obtain ⟨k, v⟩ := e
      rw [find?] at h
      split at h
      case isTrue hk =>
          cases h
          rw [beq_iff_eq.mp hk]
          exact List.mem_cons_self ..
      case isFalse => exact List.mem_cons_of_mem _ (ih h)

/-- Nothing is found for a name that no entry has. -/
theorem find?_eq_none_iff : find? name t = none ↔ name ∉ names t := by
  induction t with
  | nil => simp [find?, names]
  | cons e rest ih =>
      rw [find?, names, List.map_cons, List.mem_cons, not_or]
      split
      case isTrue h =>
          exact iff_of_false (Option.some_ne_none _)
            fun hnot => hnot.1 (beq_iff_eq.mp h).symm
      case isFalse h =>
          rw [ih, names]
          exact (and_iff_right fun he => h (beq_iff_eq.mpr he.symm)).symm

theorem find?_eq_none (h : ∀ x ∈ t, x.1 ≠ name) : find? name t = none := by
  refine find?_eq_none_iff.mpr fun hmem => ?_
  obtain ⟨x, hx, hname⟩ := List.mem_map.mp hmem
  exact h x hx hname

/-- Where no name comes twice, every entry is found. -/
theorem find?_eq_some_iff_mem (h : (names t).Nodup) :
    find? name t = some value ↔ (name, value) ∈ t := by
  refine ⟨mem_of_find?, fun hmem => ?_⟩
  induction t with
  | nil => cases hmem
  | cons e rest ih =>
      obtain ⟨hnot, hrest⟩ := List.nodup_cons.mp h
      rcases List.mem_cons.mp hmem with rfl | hmem
      · exact if_pos (beq_self_eq_true _)
      · have hne : e.1 ≠ name := by
          rintro rfl
          exact hnot (List.mem_map.mpr ⟨_, hmem, rfl⟩)
        rw [find?, if_neg (by simpa using hne), ih hrest hmem]

theorem has_iff : has name t = true ↔ ∃ value, find? name t = some value :=
  Option.isSome_iff_exists

theorem has_iff_mem_names : has name t = true ↔ name ∈ names t := by
  rw [has, Option.isSome_iff_ne_none, ne_eq, find?_eq_none_iff, not_not]

/-- A write adds its own name, and takes none away. -/
theorem has_insertOrdered (value : α)
    (h : name = other ∨ has other t = true) :
    has other (insertOrdered name value t) = true := by
  by_cases hname : name = other
  · rw [← hname, has, find?_insertOrdered_self]
    rfl
  · rw [has, find?_insertOrdered_of_ne hname]
    exact h.resolve_left hname

/-- Of entries that are written one after the other, the last one of a name
is found. -/
theorem find?_foldl_insertOrdered (entries : List (String × α))
    (name : String) :
    find? name (entries.foldl (fun t e => insertOrdered e.1 e.2 t) [])
      = find? name entries.reverse := by
  induction entries using List.reverseRecOn with
  | nil => rfl
  | append_singleton entries e ih =>
      rw [List.foldl_append, List.foldl_cons, List.foldl_nil,
        List.reverse_concat, find?]
      split
      case isTrue h => rw [beq_iff_eq.mp h, find?_insertOrdered_self]
      case isFalse h =>
          rw [find?_insertOrdered_of_ne (by simpa using h), ih]

/-- Nothing new is in a table but what was put in. -/
theorem mem_insert {x : String × α} (h : x ∈ insert name value t) :
    x = (name, value) ∨ x ∈ t := by
  induction t with
  | nil => exact .inl (List.mem_singleton.mp h)
  | cons e rest ih =>
      obtain ⟨k, v⟩ := e
      rw [insert] at h
      split at h
      case isTrue hk =>
          rw [beq_iff_eq.mp hk] at h
          exact (List.mem_cons.mp h).imp_right (List.mem_cons_of_mem _)
      case isFalse =>
          rcases List.mem_cons.mp h with rfl | h
          · exact .inr (List.mem_cons_self ..)
          · exact (ih h).imp_right (List.mem_cons_of_mem _)

/-- A new name comes to stand behind the others. -/
theorem names_insert (name : String) (value : α) (t : Table α) :
    names (insert name value t)
      = if name ∈ names t then names t else names t ++ [name] := by
  induction t with
  | nil => rfl
  | cons e rest ih =>
      obtain ⟨k, v⟩ := e
      have hcons : ∀ {v : α} {rest : Table α},
          names ((k, v) :: rest) = k :: names rest := rfl
      by_cases hk : k = name
      · subst hk
        rw [insert, if_pos (beq_self_eq_true _), hcons, hcons,
          if_pos (List.mem_cons_self ..)]
      · have hmem : name ∈ k :: names rest ↔ name ∈ names rest :=
          List.mem_cons.trans (or_iff_right (Ne.symm hk))
        rw [insert, if_neg (by simpa using hk), hcons, hcons, ih,
          if_congr hmem rfl rfl]
        split <;> rfl

/-- The entries of a table keep different names, since what is put in takes the
place of what it replaces. -/
theorem nodup_names_insert (h : (names t).Nodup) (name : String)
    (value : α) : (names (insert name value t)).Nodup := by
  rw [names_insert]
  split
  case isTrue => exact h
  case isFalse hno =>
      rw [← List.concat_eq_append]
      exact h.concat hno

/-- What is not found is looked for behind. -/
theorem find?_append (name : String) (t u : Table α) :
    find? name (t ++ u) = (find? name t).or (find? name u) := by
  induction t with
  | nil => rfl
  | cons e rest ih =>
      rw [List.cons_append, find?, find?]
      split
      · rfl
      · exact ih

/-- What is put in only where the name is free never hides anything. -/
theorem find?_insertNew (other name : String) (value : α) (t : Table α) :
    find? other (insertNew name value t)
      = (find? other t).or (if name = other then some value else none) := by
  rw [insertNew]
  split
  case isTrue hhas =>
      obtain ⟨there, hthere⟩ := has_iff.mp hhas
      by_cases h : name = other
      · rw [← h, hthere]
        rfl
      · rw [if_neg h, Option.or_none]
  case isFalse =>
      rw [find?_append, find?, find?]
      simp only [beq_iff_eq]

/-- Where the first entry of each name is kept, the first one of a name is
found. -/
theorem find?_foldl_insertNew (key : β → String) (value : β → α)
    (xs : List β) (t : Table α) (name : String) :
    find? name (xs.foldl (fun t x => insertNew (key x) (value x) t) t)
      = (find? name t).or ((xs.find? (key · == name)).map value) := by
  induction xs generalizing t with
  | nil => simp
  | cons x rest ih =>
      rw [List.foldl_cons, ih, find?_insertNew, Option.or_assoc,
        List.find?_cons]
      by_cases h : key x = name
      · rw [if_pos h, beq_iff_eq.mpr h]
        rfl
      · rw [if_neg h, beq_false_of_ne h]
        rfl

-- =============================================================== order

/-- Whether the names grow from entry to entry. -/
def Ordered (t : Table α) : Prop := (names t).Pairwise (· < ·)

theorem ordered_cons {e : String × α} :
    Ordered (e :: t) ↔ (∀ x ∈ t, e.1 < x.1) ∧ Ordered t := by
  simp [Ordered, names]

/-- Nothing new is in an ordered table either. -/
theorem mem_insertOrdered {x : String × α}
    (h : x ∈ insertOrdered name value t) : x = (name, value) ∨ x ∈ t := by
  induction t with
  | nil => exact .inl (List.mem_singleton.mp h)
  | cons e rest ih =>
      obtain ⟨k, v⟩ := e
      rw [insertOrdered] at h
      split at h
      · exact List.mem_cons.mp h
      · split at h
        case isTrue hk =>
            rw [beq_iff_eq.mp hk] at h
            exact (List.mem_cons.mp h).imp_right (List.mem_cons_of_mem _)
        case isFalse =>
            rcases List.mem_cons.mp h with rfl | h
            · exact .inr (List.mem_cons_self ..)
            · exact (ih h).imp_right (List.mem_cons_of_mem _)

/-- It stays ordered. The induction goes with the search for the place: what is
in front is passed, an equal name is replaced, and before a later one the new
entry is put. -/
theorem Ordered.insertOrdered (h : Ordered t) (name : String) (value : α) :
    Ordered (insertOrdered name value t) := by
  induction t with
  | nil => simp [Table.insertOrdered, Ordered, names]
  | cons e rest ih =>
      obtain ⟨k, v⟩ := e
      obtain ⟨hall, hrest⟩ := ordered_cons.mp h
      rw [Table.insertOrdered]
      split
      case isTrue hlt =>
          refine ordered_cons.mpr ⟨fun x hx => ?_, h⟩
          rcases List.mem_cons.mp hx with rfl | hx
          · exact hlt
          · exact hlt.trans (hall x hx)
      case isFalse hlt =>
          split
          case isTrue => exact ordered_cons.mpr ⟨hall, hrest⟩
          case isFalse hk =>
              refine ordered_cons.mpr ⟨fun x hx => ?_, ih hrest⟩
              rcases mem_insertOrdered hx with rfl | hx
              · exact lt_of_le_of_ne (not_lt.mp hlt) (by simpa using hk)
              · exact hall x hx

/-- A table that is built from entries one by one is ordered, whatever order
they come in. -/
theorem ordered_foldl_insertOrdered (entries : List (String × α)) :
    Ordered (entries.foldl (fun t e => insertOrdered e.1 e.2 t) []) :=
  List.foldlRecOn entries _ List.Pairwise.nil
    fun _ h e _ => h.insertOrdered e.1 e.2

/-- There is one entry of a name at most. -/
theorem Ordered.filter_name (h : Ordered t)
    (hf : find? name t = some value) :
    t.filter (·.1 == name) = [(name, value)] := by
  induction t with
  | nil => cases hf
  | cons e rest ih =>
      obtain ⟨k, v⟩ := e
      obtain ⟨hall, hrest⟩ := ordered_cons.mp h
      rw [find?] at hf
      by_cases hk : k = name
      · subst hk
        rw [if_pos (beq_self_eq_true k)] at hf
        cases hf
        rw [List.filter_cons_of_pos (by simp), List.filter_eq_nil_iff.mpr]
        intro x hx
        simpa using (hall x hx).ne'
      · rw [if_neg (by simpa using hk)] at hf
        rw [List.filter_cons_of_neg (by simpa using hk), ih hrest hf]

/-- A write to a name that is there changes the view of no entry, if it
does not change that of the value which stands there. -/
theorem Ordered.map_insertOrdered (view : α → β) (h : Ordered t)
    (hf : find? name t = some found) (hview : view value = view found) :
    (Table.insertOrdered name value t).map (fun e => (e.1, view e.2))
      = t.map fun e => (e.1, view e.2) := by
  induction t with
  | nil => cases hf
  | cons e rest ih =>
      obtain ⟨k, v⟩ := e
      obtain ⟨hall, hrest⟩ := ordered_cons.mp h
      by_cases hk : k = name
      · subst hk
        rw [find?, if_pos (beq_self_eq_true k)] at hf
        cases hf
        simp [Table.insertOrdered, hview]
      · rw [find?, if_neg (by simpa using hk)] at hf
        have hlt : ¬name < k := by
          have := hall _ (mem_of_find? hf)
          exact this.asymm
        rw [Table.insertOrdered, if_neg hlt, if_neg (by simpa using hk),
          List.map_cons, List.map_cons, ih hrest hf]

/-- Tables in order that answer alike are the same. -/
theorem Ordered.ext {u : Table α} (ht : Ordered t) (hu : Ordered u)
    (h : ∀ name, find? name t = find? name u) : t = u := by
  have hhead : ∀ {k v} {rest : Table α}, find? k ((k, v) :: rest) = some v :=
    if_pos (beq_self_eq_true _)
  have hlow : ∀ {k : String} {rest : Table α}, (∀ x ∈ rest, k < x.1) →
      find? k rest = none := fun hall =>
    find?_eq_none fun x hx => (hall x hx).ne'
  induction t generalizing u with
  | nil =>
      cases u with
      | nil => rfl
      | cons e rest =>
          have := h e.1
          rw [hhead] at this
          cases this
  | cons e rest ih =>
      obtain ⟨k, v⟩ := e
      cases u with
      | nil =>
          have := h k
          rw [hhead] at this
          cases this
      | cons e' rest' =>
          obtain ⟨k', v'⟩ := e'
          obtain ⟨hall, hrest⟩ := ordered_cons.mp ht
          obtain ⟨hall', hrest'⟩ := ordered_cons.mp hu
          rcases lt_trichotomy k k' with hlt | rfl | hlt
          · have hnone : find? k ((k', v') :: rest') = none :=
              hlow fun x hx => (List.mem_cons.mp hx).elim
                (fun he => he ▸ hlt) fun hx => hlt.trans (hall' x hx)
            rw [← h k, hhead] at hnone
            cases hnone
          · have hsame := h k
            rw [hhead, hhead] at hsame
            cases hsame
            refine congrArg _ (ih hrest hrest' fun name => ?_)
            by_cases hk : k = name
            · subst hk
              rw [hlow hall, hlow hall']
            · have hname := h name
              rwa [find?, find?, if_neg (by simpa using hk),
                if_neg (by simpa using hk)] at hname
          · have hnone : find? k' ((k, v) :: rest) = none :=
              hlow fun x hx => (List.mem_cons.mp hx).elim
                (fun he => he ▸ hlt) fun hx => hlt.trans (hall x hx)
            rw [h k', hhead] at hnone
            cases hnone

-- ================================================= views of all values

/-- A view of the values goes through a look-up. -/
theorem find?_map (view : α → β) (name : String) (t : Table α) :
    find? name (t.map fun e => (e.1, view e.2)) = (find? name t).map view := by
  induction t with
  | nil => rfl
  | cons e rest ih =>
      obtain ⟨k, v⟩ := e
      rw [List.map_cons, find?, find?]
      split
      · rfl
      · exact ih

theorem ordered_map (view : α → β) (t : Table α) :
    Ordered (t.map fun e => (e.1, view e.2)) ↔ Ordered t := by
  unfold Ordered names
  rw [List.map_map]
  exact Iff.rfl

end Overlay.Table
