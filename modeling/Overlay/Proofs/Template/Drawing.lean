/-
Single draws from a template.

A draw asks its template for the index of a row, counts it, and completes
the row with its computed fields. Three things are all that later modules
have to know of it:

- Which index comes next. Where the order is fixed it is `due`, which
  neither the stream nor another template has a part in
  (`advance_of_fixed`); a random index is below the number of rows
  (`advance_of_random`).
- What is answered: the row of that index, completed (`next_fst`).
- What is left: the supply with one template replaced
  (`find?_next`, `rewind_next`).
-/
import Mathlib
import Overlay.Proofs.Table
import Overlay.Template.Supply

namespace Overlay

-- ====================================================== random indices

namespace Random

/-- A draw of 64 bits is made of two words. -/
theorem word64_lt (s : Stream) : (word64 s).1 < words := by
  have hlow := (word s).1.toNat_lt
  have hhigh := (word (word s).2).1.toNat_lt
  have h32 : twoTo 32 = 2 ^ 32 := rfl
  have hwords : words = 2 ^ 64 := rfl
  show (word s).1.toNat + twoTo 32 * (word (word s).2).1.toNat < words
  rw [h32, hwords]
  omega

/-- What is drawn below a number is below it: it is that part of the
number which the word is of all words. -/
theorem below_lt {n : Nat} (hn : 0 < n) (tries : Nat) (s : Stream) :
    (below n tries s).1 < n := by
  have hpart : ∀ s, (word64 s).1 * n / words < n := fun s =>
    Nat.div_lt_of_lt_mul (Nat.mul_lt_mul_of_pos_right (word64_lt s) hn)
  induction tries generalizing s with
  | zero => exact hpart s
  | succ tries ih =>
      show ((if (word64 s).1 * n % words ≤ zone n
        then pure ((word64 s).1 * n / words)
        else below n tries : StateM Stream Nat) (word64 s).2).1 < n
      split
      · exact hpart s
      · exact ih _

theorem index_lt {n : Nat} (hn : 0 < n) (s : Stream) :
    (index n s).1 < n := below_lt hn patience s

end Random

-- ======================================================== the next row

namespace Template

variable {t : Template}

/-- The index of the row that comes after `k` others, if the order of the
rows is fixed. -/
def due (t : Template) (k : Nat) : Option Nat :=
  match t.cycle with
  | .once =>
    if t.cursor + k < t.rows.length then some (t.cursor + k) else none
  | _ => some ((t.cursor + k) % t.rows.length)

/-- The row that is due is one of the rows. -/
theorem due_lt (hrows : t.rows ≠ []) {k i : Nat} (h : t.due k = some i) :
    i < t.rows.length := by
  have hpos := List.length_pos_of_ne_nil hrows
  unfold due at h
  split at h
  · split at h
    · cases h
      assumption
    · cases h
  · cases h
    exact Nat.mod_lt _ hpos

/-- Where the order of the rows is fixed, the row that is due is taken and the
cursor goes on by one. The random numbers are not touched. -/
theorem advance_of_fixed (hrows : t.rows ≠ []) (h : t.cycle ≠ .random)
    (stream : Random.Stream) :
    t.advance stream
      = ((t.due 0).map fun i => (i, { t with cursor := t.cursor + 1 }),
        stream) := by
  have hpos := List.length_pos_of_ne_nil hrows
  have hsize : (t.rows.length == 0) = false := by
    simpa using hrows
  unfold advance due
  rw [hsize]
  cases hc : t.cycle with
  | random => exact absurd hc h
  | sequential => rfl
  | infinite => rfl
  | once =>
      dsimp only
      by_cases hlt : t.cursor < t.rows.length <;> simp [hlt] <;> rfl

/-- So the index that comes next does not depend on them. -/
theorem index_of_fixed (hrows : t.rows ≠ []) (h : t.cycle ≠ .random)
    (stream : Random.Stream) :
    (t.advance stream).1.map Prod.fst = t.due 0 := by
  rw [advance_of_fixed hrows h, Option.map_map]
  exact Option.map_id' ..

/-- In random order any of the rows may come, and the cursor stays. -/
theorem advance_of_random (hrows : t.rows ≠ []) (h : t.cycle = .random)
    (stream : Random.Stream) :
    ∃ i < t.rows.length, (t.advance stream).1 = some (i, t) := by
  have hpos := List.length_pos_of_ne_nil hrows
  have hsize : (t.rows.length == 0) = false := by
    simpa using hrows
  refine ⟨(Random.index t.rows.length stream).1,
    Random.index_lt hpos stream, ?_⟩
  unfold advance
  rw [hsize, h]
  rfl

/-- All that moves where a template advances is its cursor. -/
theorem exists_cursor_of_advance {stream : Random.Stream} {i : Nat}
    {moved : Template} (h : (t.advance stream).1 = some (i, moved)) :
    ∃ cursor, moved = { t with cursor := cursor } := by
  by_cases hrows : t.rows = []
  · unfold advance at h
    rw [hrows] at h
    cases h
  · by_cases hc : t.cycle = .random
    · obtain ⟨j, -, hj⟩ := advance_of_random hrows hc stream
      rw [hj] at h
      cases h
      exact ⟨t.cursor, rfl⟩
    · rw [advance_of_fixed hrows hc, Option.map_eq_some_iff] at h
      obtain ⟨j, -, hj⟩ := h
      cases hj
      exact ⟨t.cursor + 1, rfl⟩

/-- Moving the cursor and counting leave everything else as it is. -/
theorem rewind_serve {stream : Random.Stream} {i : Nat}
    {moved : Template} (h : (t.advance stream).1 = some (i, moved)) :
    (moved.serve i).rewind = t.rewind := by
  obtain ⟨cursor, rfl⟩ := exists_cursor_of_advance h
  rfl

/-- A row that was served is used from then on. -/
theorem mem_used_serve (t : Template) (i j : Nat) :
    j ∈ (t.serve i).used ↔ j ∈ t.used ∨ j = i := by
  unfold serve
  dsimp only
  split
  case isTrue hi =>
      have hi : i ∈ t.used := List.contains_iff_mem.mp hi
      constructor
      · exact .inl
      · rintro (hj | rfl)
        · exact hj
        · exact hi
  case isFalse => rw [List.mem_cons, or_comm]

/-- A row is counted among the used ones once, however often it is served. -/
theorem nodup_used_serve (h : t.used.Nodup) (i : Nat) :
    (t.serve i).used.Nodup := by
  unfold serve
  dsimp only
  split
  case isTrue => exact h
  case isFalse hi =>
      exact h.cons fun hmem => hi (List.contains_iff_mem.mpr hmem)

/-- The template after a draw. -/
def drawn (t : Template) (stream : Random.Stream) : Template :=
  match (t.advance stream).1 with
  | none => t
  | some (i, moved) => moved.serve i

/-- A draw changes nothing of what a template is at its beginning. -/
theorem rewind_drawn (t : Template) (stream : Random.Stream) :
    (t.drawn stream).rewind = t.rewind := by
  unfold drawn
  split
  case h_1 => rfl
  case h_2 i moved h =>
      exact rewind_serve h

end Template

-- =================================================== draws of a supply

namespace RowSupply

variable {s : RowSupply} {name other : String} {t : Template}

/-- All that a draw can do: there is no such template, or it has no more
rows, or one of its rows is handed out. -/
theorem next_cases (name : String) (s : RowSupply) :
    Table.find? name s.templates = none ∧ next name s = (none, s)
    ∨ ∃ t, Table.find? name s.templates = some t
      ∧ ((t.advance s.stream).1 = none
          ∧ next name s
            = (none, { s with stream := (t.advance s.stream).2 })
        ∨ ∃ i moved issues, (t.advance s.stream).1 = some (i, moved)
          ∧ next name s
            = (t.rows[i]?.map fun row => (t.completed name row).1,
              { s with
                templates :=
                  Table.insertOrdered name (moved.serve i) s.templates
                stream := (t.advance s.stream).2
                issues := issues })) := by
  unfold next
  cases hf : Table.find? name s.templates with
  | none => exact .inl ⟨rfl, rfl⟩
  | some t =>
      refine .inr ⟨t, rfl, ?_⟩
      dsimp only
      rcases hd : t.advance s.stream with ⟨_ | ⟨i, moved⟩, stream⟩
      · exact .inl ⟨rfl, rfl⟩
      · cases hrow : t.rows[i]? with
        | none =>
            refine .inr ⟨i, moved, s.issues, rfl, ?_⟩
            dsimp only
            rw [hrow]
            rfl
        | some row =>
            refine .inr ⟨i, moved, s.issues ++ (t.completed name row).2,
              rfl, ?_⟩
            dsimp only
            rw [hrow]
            rfl

/-- A draw answers the row whose index is next, completed. -/
theorem next_fst (h : Table.find? name s.templates = some t) :
    (next name s).1 = (t.advance s.stream).1.bind fun d =>
      t.rows[d.1]?.map fun row => (t.completed name row).1 := by
  rcases next_cases name s with ⟨hnone, -⟩ | ⟨t', ht, hcase⟩
  · rw [h] at hnone
    cases hnone
  · obtain rfl : t = t' := Option.some.inj (h.symm.trans ht)
    rcases hcase with ⟨hd, hn⟩ | ⟨i, moved, issues, hd, hn⟩
    · rw [hd, hn]
      rfl
    · rw [hd, hn]
      rfl

/-- A draw replaces the template that it is made from, and no other. -/
theorem find?_next (name other : String) (s : RowSupply) :
    Table.find? other (next name s).2.templates
      = (Table.find? other s.templates).map fun t =>
          if name = other then t.drawn s.stream else t := by
  rcases next_cases name s with
    ⟨hnone, hn⟩ | ⟨t, ht, ⟨hd, hn⟩ | ⟨i, moved, issues, hd, hn⟩⟩
  · rw [hn]
    by_cases ho : name = other
    · rw [← ho, hnone]
      rfl
    · simp [ho]
  · rw [hn]
    by_cases ho : name = other
    · simp [← ho, ht, Template.drawn, hd]
    · simp [ho]
  · rw [hn]
    by_cases ho : name = other
    · simp [← ho, ht, Template.drawn, hd]
    · simp [ho, Table.find?_insertOrdered_of_ne ho]

/-- A draw leaves every template of an ordered table as it is, but for
what it counts. -/
theorem rewind_next (name : String) (h : Table.Ordered s.templates) :
    (next name s).2.templates.map (fun e => (e.1, e.2.rewind))
      = s.templates.map fun e => (e.1, e.2.rewind) := by
  rcases next_cases name s with
    ⟨-, hn⟩ | ⟨t, ht, ⟨-, hn⟩ | ⟨i, moved, issues, hd, hn⟩⟩
  · rw [hn]
  · rw [hn]
  · rw [hn]
    exact h.map_insertOrdered Template.rewind ht
      (Template.rewind_serve hd)

/-- A row that is looked up by its number is no draw. -/
theorem rowAt_templates (name : String) (number : Nat)
    (s : RowSupply) :
    (rowAt name number s).2.templates = s.templates
      ∧ (rowAt name number s).2.origin = s.origin := by
  unfold rowAt
  split
  · exact ⟨rfl, rfl⟩
  · split <;> exact ⟨rfl, rfl⟩

@[simp] theorem next_origin (name : String) (s : RowSupply) :
    (next name s).2.origin = s.origin := by
  rcases next_cases name s with
    ⟨-, hn⟩ | ⟨t, -, ⟨-, hn⟩ | ⟨i, moved, issues, -, hn⟩⟩ <;> rw [hn]

end RowSupply

-- ======================================================= several draws

namespace Template

variable {t : Template}

/-- How many of `n` draws hand out a row. -/
def supplied (t : Template) (n : Nat) : Nat :=
  if t.cycle = .once then min n (t.rows.length - t.cursor) else n

/-- The row that comes after `k` others, completed, if the order of the
rows is fixed. -/
def dueRow (name : String) (t : Template) (k : Nat) : Option Row :=
  (t.due k).bind fun i =>
    t.rows[i]?.map fun row => (t.completed name row).1

/-- Behind its last row, a template that hands out every row once has
none. -/
theorem dueRow_of_once (h : t.cycle = .once) (name : String) {k : Nat}
    (hle : t.rows.length ≤ t.cursor + k) : t.dueRow name k = none := by
  have hlt : ¬t.cursor + k < t.rows.length := by omega
  rw [dueRow, due, h]
  simp [hlt]

/-- Whether `t'` is what `n` draws that handed out a row make of `t`. -/
structure Ahead (t : Template) (n : Nat) (t' : Template) : Prop where
  rewind : t'.rewind = t.rewind
  served : t'.served = t.served + n
  cursor : t.cycle ≠ .random → t'.cursor = t.cursor + n

namespace Ahead

variable {t' t'' : Template} {n m : Nat}

theorem refl (t : Template) : t.Ahead 0 t := ⟨rfl, rfl, fun _ => rfl⟩

theorem rows (h : t.Ahead n t') : t'.rows = t.rows :=
  (congrArg Template.rows h.rewind :)

theorem cycle (h : t.Ahead n t') : t'.cycle = t.cycle :=
  (congrArg Template.cycle h.rewind :)

/-- Draws add up. -/
theorem trans (h : t.Ahead n t') (h' : t'.Ahead m t'') :
    t.Ahead (n + m) t'' where
  rewind := h'.rewind.trans h.rewind
  served := by rw [h'.served, h.served, Nat.add_assoc]
  cursor hc := by
    rw [h'.cursor (h.cycle ▸ hc), h.cursor hc, Nat.add_assoc]

/-- What is missing when some rows were drawn is drawn from what is left
of the template. -/
theorem supplied (h : t.Ahead (t.supplied m) t') (n : Nat) :
    t.supplied m + t'.supplied (n - t.supplied m)
      = t.supplied (max m n) := by
  have hcursor := h.cursor
  unfold Template.supplied at hcursor ⊢
  rw [h.cycle, h.rows]
  split
  case isTrue honce =>
      rw [if_pos honce] at hcursor
      rw [hcursor (by simp [honce])]
      omega
  case isFalse => omega

/-- A fixed order goes on where it was left. -/
theorem dueRow (h : t.Ahead n t') (hc : t.cycle ≠ .random)
    (name : String) (k : Nat) :
    t'.dueRow name k = t.dueRow name (n + k) := by
  have hdue : t'.due k = t.due (n + k) := by
    unfold due
    rw [h.cycle, h.rows, h.cursor hc, Nat.add_assoc]
  have hcompleted : ∀ row, t'.completed name row = t.completed name row := by
    intro row
    show t'.rewind.completed name row = t.rewind.completed name row
    rw [h.rewind]
  unfold Template.dueRow
  rw [hdue, h.rows]
  simp only [hcompleted]

end Ahead

end Template

namespace RowSupply

variable {s : RowSupply} {name : String} {t : Template}

/-- What a draw from a template with rows comes to: a row is handed out,
or all of them were handed out before. -/
theorem next_spec (h : Table.find? name s.templates = some t)
    (hrows : t.rows ≠ []) :
    (∃ row t', (next name s).1 = some row
      ∧ Table.find? name (next name s).2.templates = some t'
      ∧ t.Ahead 1 t'
      ∧ (t.cycle ≠ .random → t.dueRow name 0 = some row)
      ∧ (t.cycle = .once → t.cursor < t.rows.length))
    ∨ ((next name s).1 = none
      ∧ Table.find? name (next name s).2.templates = some t
      ∧ t.cycle = .once ∧ t.rows.length ≤ t.cursor) := by
  have hafter : Table.find? name (next name s).2.templates
      = some (t.drawn s.stream) := by
    rw [find?_next, h, Option.map_some, if_pos rfl]
  rw [next_fst h, hafter]
  by_cases hc : t.cycle = .random
  · obtain ⟨i, hi, hd⟩ := Template.advance_of_random hrows hc s.stream
    rw [Template.drawn, hd, Option.bind_some,
      List.getElem?_eq_getElem hi]
    exact .inl ⟨_, _, rfl, rfl, ⟨rfl, rfl, fun h => absurd hc h⟩,
      fun h => absurd hc h, by simp [hc]⟩
  · have hd := Template.advance_of_fixed hrows hc s.stream
    cases hdue : t.due 0 with
    | some i =>
        have hi := Template.due_lt hrows hdue
        have hrow : t.dueRow name 0
            = some (t.completed name t.rows[i]).1 := by
          rw [Template.dueRow, hdue, Option.bind_some,
            List.getElem?_eq_getElem hi, Option.map_some]
        rw [Template.drawn, hd, hdue, Option.map_some, Option.bind_some,
          List.getElem?_eq_getElem hi]
        refine .inl ⟨_, _, rfl, rfl, ⟨rfl, rfl, fun _ => rfl⟩,
          fun _ => hrow, fun honce => ?_⟩
        rw [Template.due, honce] at hdue
        by_contra hlt
        simp [hlt] at hdue
    | none =>
        rw [Template.drawn, hd, hdue]
        refine .inr ⟨rfl, rfl, ?_⟩
        unfold Template.due at hdue
        split at hdue
        case h_1 honce =>
            refine ⟨honce, ?_⟩
            by_contra hlt
            simp [Nat.not_le.mp hlt] at hdue
        case h_2 => cases hdue

/-- The answer to the draw that comes after `k` others. -/
def answer (name : String) : (k : Nat) → RowSupply → Option Row
  | 0, s => (next name s).1
  | k + 1, s => answer name k (next name s).2

/-- Where the order is fixed, draws in a row answer what is due. -/
theorem answer_eq_dueRow (h : Table.find? name s.templates = some t)
    (hrows : t.rows ≠ []) (hc : t.cycle ≠ .random) (k : Nat) :
    answer name k s = t.dueRow name k := by
  induction k generalizing s t with
  | zero =>
      rw [answer, next_fst h, Template.dueRow,
        ← Template.index_of_fixed hrows hc s.stream, Option.bind_map]
      rfl
  | succ k ih =>
      rw [answer]
      rcases next_spec h hrows with
        ⟨row, t', -, ht', hahead, -, -⟩ | ⟨-, ht', honce, hover⟩
      · rw [ih ht' (hahead.rows ▸ hrows) (hahead.cycle ▸ hc),
          hahead.dueRow hc, Nat.add_comm 1 k]
      · -- a template that hands out every row once is through for good
        rw [ih ht' hrows hc, Template.dueRow_of_once honce name (by omega),
          Template.dueRow_of_once honce name (by omega)]

end RowSupply

end Overlay
