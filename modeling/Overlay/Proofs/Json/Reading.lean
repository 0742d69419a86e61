/-
Values as they are read.

A field that an object has already is written where it stands
(`Table.names_insert`). So the fields of an object that is read, one after
the other, never come to two of one name, at whatever depth
(`wellFormed_of_read?`).
-/
import Mathlib
import Overlay.Json.Reader
import Overlay.Proofs.Table

namespace Overlay.Json

/-- Whether no object in a value has a key twice. -/
inductive WellFormed : Json → Prop
  | list {items : List Json} : (∀ v ∈ items, WellFormed v) →
      WellFormed (.list items)
  | object {fields : Fields} : (Table.names fields).Nodup →
      (∀ e ∈ fields, WellFormed e.2) → WellFormed (.object fields)
  | scalar {v : Json} : v.list? = none → v.object? = none → WellFormed v

variable {v : Json} {cs rest : List Char}

theorem WellFormed.empty : WellFormed (.object []) :=
  .object List.nodup_nil (by simp)

/-- A field is added, or written where it stands. -/
theorem WellFormed.insert {fields : Fields} (h : WellFormed (.object fields))
    (key : String) (hv : WellFormed v) :
    WellFormed (.object (Table.insert key v fields)) := by
  cases h with
  | scalar _ hnone => cases hnone
  | object hkeys hall =>
      refine .object (Table.nodup_names_insert hkeys key v) fun e he => ?_
      rcases Table.mem_insert he with rfl | he
      · exact hv
      · exact hall e he

/-- A number has no fields, so nothing in it can be named twice. -/
theorem wellFormed_of_readUnsigned {negative : Bool}
    (h : readUnsigned negative cs = some (v, rest)) : WellFormed v := by
  simp only [readUnsigned, Option.bind_eq_bind, Option.bind_eq_some_iff] at h
  obtain ⟨-, -, ⟨places, cs'⟩, -, ⟨e, rest'⟩, -, h⟩ := h
  split at h
  · cases h
    exact .scalar rfl rfl
  · split at h
    · cases h
      exact .scalar rfl rfl
    · obtain ⟨value, -, h⟩ := Option.bind_eq_some_iff.mp h
      cases h
      exact .scalar rfl rfl

/-- What is read with some fuel, also behind items or fields that have been
read before. -/
theorem wellFormed_of_reads (fuel : Nat) :
    (∀ {depth : Nat} {cs : List Char} {v : Json} {rest : List Char},
      readValue fuel depth cs = some (v, rest) → WellFormed v)
    ∧ (∀ {depth : Nat} {read : List Json} {cs : List Char} {v : Json}
      {rest : List Char}, (∀ w ∈ read, WellFormed w) →
      readItems fuel depth read cs = some (v, rest) → WellFormed v)
    ∧ ∀ {depth : Nat} {read : Fields} {cs : List Char} {v : Json}
      {rest : List Char}, WellFormed (.object read) →
      readFields fuel depth read cs = some (v, rest) → WellFormed v := by
  induction fuel with
  | zero =>
      refine ⟨fun h => ?_, fun _ h => ?_, fun _ h => ?_⟩
      · rw [readValue] at h
        cases h
      · rw [readItems] at h
        cases h
      · rw [readFields] at h
        cases h
  | succ fuel ih =>
      obtain ⟨hvalue, hitems, hfields⟩ := ih
      refine ⟨fun h => ?_, @fun depth read cs v rest hread h => ?_,
        fun hread h => ?_⟩
      · rw [readValue] at h
        split at h
        · obtain ⟨s, -, h⟩ := Option.map_eq_some_iff.mp h
          cases h
          exact .scalar rfl rfl
        · exact wellFormed_of_readUnsigned h
        · split at h
          · cases h
          · split at h
            · cases h
              exact .list (by simp)
            · exact hitems (by simp) h
        · split at h
          · cases h
          · split at h
            · cases h
              exact .empty
            · exact hfields .empty h
        · split at h
          · cases h
            exact .scalar rfl rfl
          · cases h
            exact .scalar rfl rfl
          · cases h
            exact .scalar rfl rfl
          · exact wellFormed_of_readUnsigned h
      · rw [readItems, Option.bind_eq_bind, Option.bind_eq_some_iff] at h
        obtain ⟨⟨w, rest'⟩, hw, h⟩ := h
        have hall : ∀ x ∈ w :: read, WellFormed x :=
          List.forall_mem_cons.mpr ⟨hvalue hw, hread⟩
        dsimp only at h
        split at h
        · exact hitems hall h
        · cases h
          exact .list fun x hx => hall x (List.mem_reverse.mp hx)
        · cases h
      · rw [readFields] at h
        split at h
        · obtain ⟨⟨key, rest'⟩, -, h⟩ := Option.bind_eq_some_iff.mp h
          dsimp only at h
          split at h
          · obtain ⟨⟨w, rest''⟩, hw, h⟩ := Option.bind_eq_some_iff.mp h
            have hnext := hread.insert key (hvalue hw)
            dsimp only at h
            split at h
            · exact hfields hnext h
            · cases h
              exact hnext
            · cases h
          · cases h
        · cases h

/-- No object in a text has a key twice once it is read. -/
theorem wellFormed_of_read? {s : String} (h : read? s = some v) :
    WellFormed v := by
  unfold read? at h
  dsimp only at h
  split at h
  case h_1 w rest hread =>
      split at h <;> cases h
      exact (wellFormed_of_reads _).1 hread
  case h_2 => cases h

end Overlay.Json
