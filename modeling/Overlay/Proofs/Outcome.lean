/-
Computations taken apart.

A computation that may fail and has not has succeeded at every step
(`ok_of_bind`), and where it went through a list, each result stands
beside what it is a result of (`of_mem_zip_of_mapM`,
`exists_of_mem_mapM`). So a function that reads something is opened step
by step, and never by going through the ways in which it fails. One that
has failed has failed at one step (`error_of_bind`, `error_of_mapM`). What no
step through a list changes, all of them leave as it is (`foldl_keeps`).
-/
import Mathlib

namespace Overlay

variable {ε α β : Type} {e : ε}

/-- What comes out of two steps comes out of the second one, and the
first one has succeeded. -/
theorem ok_of_bind {x : Except ε α} {f : α → Except ε β} {b : β}
    (h : (x >>= f) = .ok b) : ∃ a, x = .ok a ∧ f a = .ok b := by
  cases x with
  | error e => cases h
  | ok a => exact ⟨a, rfl, h⟩

/-- What has failed has failed in one of the two steps. -/
theorem error_of_bind {x : Except ε α} {f : α → Except ε β}
    (h : x >>= f = .error e) :
    x = .error e ∨ ∃ a, x = .ok a ∧ f a = .error e := by
  cases x with
  | error e' =>
      cases h
      exact .inl rfl
  | ok a => exact .inr ⟨a, rfl, h⟩

theorem toOption_eq_some_iff {x : Except ε α} {a : α} :
    x.toOption = some a ↔ x = .ok a := by
  cases x <;> simp [Except.toOption]

/-- What passes a check has succeeded. -/
theorem exists_of_any_toOption (x : Except ε α) (check : α → Bool)
    (h : x.toOption.any check = true) : ∃ a, x = .ok a ∧ check a = true := by
  simpa only [Option.any_eq_true, toOption_eq_some_iff] using h

/-- Each result of a list comes from a member of the list. -/
theorem exists_of_mem_mapM {f : α → Except ε β} {xs : List α}
    {ys : List β} (h : xs.mapM f = .ok ys) {y : β} (hy : y ∈ ys) :
    ∃ x ∈ xs, f x = .ok y := by
  induction xs generalizing ys with
  | nil =>
      cases h
      cases hy
  | cons x xs ih =>
      rw [List.mapM_cons] at h
      obtain ⟨z, hz, h⟩ := ok_of_bind h
      obtain ⟨zs, hzs, h⟩ := ok_of_bind h
      cases h
      rcases List.mem_cons.mp hy with rfl | hy
      · exact ⟨x, List.mem_cons_self .., hz⟩
      · obtain ⟨w, hw, hf⟩ := ih hzs hy
        exact ⟨w, List.mem_cons_of_mem x hw, hf⟩

/-- What has failed on a list has failed on a member. -/
theorem error_of_mapM {f : α → Except ε β} {xs : List α}
    (h : xs.mapM f = .error e) : ∃ x ∈ xs, f x = .error e := by
  induction xs with
  | nil => cases h
  | cons x xs ih =>
      rw [List.mapM_cons] at h
      rcases error_of_bind h with h | ⟨b, -, h⟩
      · exact ⟨x, List.mem_cons_self .., h⟩
      · rcases error_of_bind h with h | ⟨bs, -, h⟩
        · obtain ⟨y, hy, h⟩ := ih h
          exact ⟨y, List.mem_cons_of_mem x hy, h⟩
        · cases h

/-- Each member of a list has a result. -/
theorem ok_of_mem_mapM {f : α → Except ε β} {xs : List α} {ys : List β}
    (h : xs.mapM f = .ok ys) {x : α} (hx : x ∈ xs) :
    ∃ y ∈ ys, f x = .ok y := by
  induction xs generalizing ys with
  | nil => cases hx
  | cons first rest ih =>
      rw [List.mapM_cons] at h
      obtain ⟨y, hy, h⟩ := ok_of_bind h
      obtain ⟨ys', hys, h⟩ := ok_of_bind h
      cases h
      rcases List.mem_cons.mp hx with rfl | hx
      · exact ⟨y, List.mem_cons_self .., hy⟩
      · obtain ⟨z, hz, hf⟩ := ih hys hx
        exact ⟨z, List.mem_cons_of_mem y hz, hf⟩

/-- There are as many results as members. -/
theorem length_of_mapM {f : α → Except ε β} {xs : List α} {ys : List β}
    (h : xs.mapM f = .ok ys) : ys.length = xs.length := by
  induction xs generalizing ys with
  | nil =>
      cases h
      rfl
  | cons x xs ih =>
      rw [List.mapM_cons] at h
      obtain ⟨z, -, h⟩ := ok_of_bind h
      obtain ⟨zs, hzs, h⟩ := ok_of_bind h
      cases h
      rw [List.length_cons, List.length_cons, ih hzs]

/-- Results that are a function of the members are a map of the list. -/
theorem eq_map_of_mapM {f : α → Except ε β} {g : α → β} {xs : List α}
    {ys : List β} (h : xs.mapM f = .ok ys)
    (hg : ∀ x ∈ xs, ∀ y, f x = .ok y → y = g x) : ys = xs.map g := by
  induction xs generalizing ys with
  | nil =>
      cases h
      rfl
  | cons x xs ih =>
      rw [List.mapM_cons] at h
      obtain ⟨z, hz, h⟩ := ok_of_bind h
      obtain ⟨zs, hzs, h⟩ := ok_of_bind h
      cases h
      rw [List.map_cons, hg x (List.mem_cons_self ..) z hz,
        ih hzs fun w hw => hg w (List.mem_cons_of_mem x hw)]

/-- The results of two lists behind one another are those of both. -/
theorem mapM_append_of_ok {f : α → Except ε β} {xs xs' : List α}
    {ys ys' : List β} (h : xs.mapM f = .ok ys) (h' : xs'.mapM f = .ok ys') :
    (xs ++ xs').mapM f = .ok (ys ++ ys') := by
  rw [List.mapM_append, h, h']
  rfl

/-- The last result is that of the last member. -/
theorem of_mapM_concat {f : α → Except ε β} {xs : List α} {x : α}
    {zs : List β} (h : (xs ++ [x]).mapM f = .ok zs) :
    ∃ ys y, xs.mapM f = .ok ys ∧ f x = .ok y ∧ zs = ys ++ [y] := by
  rw [List.mapM_append] at h
  obtain ⟨ys, hys, h⟩ := ok_of_bind h
  obtain ⟨last, hlast, h⟩ := ok_of_bind h
  rw [List.mapM_cons] at hlast
  obtain ⟨y, hy, hlast⟩ := ok_of_bind hlast
  cases hlast
  cases h
  exact ⟨ys, y, hys, hy, rfl⟩

/-- Results stand beside what they are results of. -/
theorem of_mem_zip_of_mapM {f : α → Option β} {xs : List α}
    {ys : List β} (h : xs.mapM f = some ys) :
    ∀ p ∈ ys.zip xs, f p.2 = some p.1 := by
  induction xs generalizing ys with
  | nil => simp
  | cons x xs ih =>
      simp only [List.mapM_cons, Option.bind_eq_bind,
        Option.bind_eq_some_iff, Option.pure_def,
        Option.some.injEq] at h
      obtain ⟨y, hy, ys', hys, rfl⟩ := h
      intro p hp
      rw [List.zip_cons_cons, List.mem_cons] at hp
      rcases hp with rfl | hp
      · exact hy
      · exact ih hys p hp

/-- What is made of results and members stands beside the members. -/
theorem forall₂_zip_of_mapM {γ : Type} {f : α → Option β}
    {g : β × α → γ} {R : γ → α → Prop} {xs : List α} {ys : List β}
    (h : xs.mapM f = some ys) (hR : ∀ x y, f x = some y → R (g (y, x)) x) :
    List.Forall₂ R ((ys.zip xs).map g) xs := by
  induction xs generalizing ys with
  | nil =>
      cases h
      exact .nil
  | cons x xs ih =>
      simp only [List.mapM_cons, Option.bind_eq_bind,
        Option.bind_eq_some_iff, Option.pure_def,
        Option.some.injEq] at h
      obtain ⟨y, hy, ys', hys, rfl⟩ := h
      exact .cons (hR x y hy) (ih hys)

/-- What stands on the right stands beside something on the left. -/
theorem exists_of_mem_forall₂ {R : α → β → Prop} {xs : List α}
    {ys : List β} (h : List.Forall₂ R xs ys) {y : β} (hy : y ∈ ys) :
    ∃ x ∈ xs, R x y := by
  induction h with
  | nil => cases hy
  | @cons x z xs ys hxz _ ih =>
      rcases List.mem_cons.mp hy with rfl | hy
      · exact ⟨x, List.mem_cons_self .., hxz⟩
      · obtain ⟨w, hw, hwy⟩ := ih hy
        exact ⟨w, List.mem_cons_of_mem x hw, hwy⟩

/-- What no step changes is not changed by all of them. -/
theorem foldl_keeps {σ : Type} (view : σ → α) {f : σ → β → σ}
    (h : ∀ s x, view (f s x) = view s) (xs : List β) (s : σ) :
    view (xs.foldl f s) = view s := by
  induction xs generalizing s with
  | nil => rfl
  | cons x xs ih => exact (ih (f s x)).trans (h s x)

end Overlay
