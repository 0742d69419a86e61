/-
How patterns move through the places of a text.

# Sequences

A pattern takes a list of places to a list of places, and a sequence does
so part by part. The constructor of sequences flattens what it is given
and joins literals that meet; neither changes where matches end
(`ends_concat`), so a sequence may be gone through in the parts that it was
made from.

# Repetitions

A repetition adds the places of one more round until nothing new is found.
Where a round goes on from each place by itself, and never back, that
makes all places that any number of rounds leads to (`mem_reach_iff`): the
new places of the n-th round are n places further on at least, so there
are no more rounds than places.
-/
import Mathlib
import Overlay.Regex.Pattern

namespace Overlay.Regex

-- =========================================================== sequences

namespace Pattern

variable {text : Array Char}

/-- Where the matches of some patterns end, one after the other. -/
def endsOfAll (text : Array Char) (ps : List Pattern) (places : List Nat) :
    List Nat :=
  ps.foldl (fun places p => p.ends text places) places

@[simp] theorem endsOfAll_nil (places : List Nat) :
    endsOfAll text [] places = places := rfl

@[simp] theorem endsOfAll_cons (p : Pattern) (ps : List Pattern)
    (places : List Nat) :
    endsOfAll text (p :: ps) places = endsOfAll text ps (p.ends text places) :=
  rfl

theorem endsOfAll_append (ps qs : List Pattern) (places : List Nat) :
    endsOfAll text (ps ++ qs) places
      = endsOfAll text qs (endsOfAll text ps places) :=
  List.foldl_append

/-- A sequence of parts moves as the parts do. -/
theorem ends_ofParts (ps : List Pattern) (places : List Nat) :
    (ofParts ps).ends text places = endsOfAll text ps places := by
  induction ps generalizing places with
  | nil => rw [ofParts, ends, endsOfAll_nil]
  | cons p ps ih =>
      cases ps with
      | nil => rfl
      | cons q qs =>
          rw [ofParts, ends, ih, endsOfAll_cons]
          · rfl
          · simp

theorem endsOfAll_parts (p : Pattern) (places : List Nat) :
    endsOfAll text p.parts places = p.ends text places := by
  induction p generalizing places with
  | seq first rest _ ih => rw [parts, endsOfAll_cons, ih, ends]
  | _ => rfl

theorem endsOfAll_flatMap_parts (ps : List Pattern) (places : List Nat) :
    endsOfAll text (ps.flatMap parts) places = endsOfAll text ps places := by
  induction ps generalizing places with
  | nil => rfl
  | cons p ps ih =>
      rw [List.flatMap_cons, endsOfAll_append, endsOfAll_parts, ih,
        endsOfAll_cons]

theorem afterLiteral?_append (a b : List Char) (place : Nat) :
    afterLiteral? text (a ++ b) place
      = (afterLiteral? text a place).bind (afterLiteral? text b) := by
  induction a generalizing place with
  | nil => rfl
  | cons c a ih =>
      rw [List.cons_append, afterLiteral?, afterLiteral?]
      split
      · exact ih _
      · rfl

/-- A pattern whose literals are joined ends where it did before. -/
theorem endsOfAll_joinLiterals (ps : List Pattern) (places : List Nat) :
    endsOfAll text (joinLiterals ps) places = endsOfAll text ps places := by
  fun_induction joinLiterals ps generalizing places with
  | case1 => rfl
  | case2 ps ih => rw [ih, endsOfAll_cons, ends]
  | case3 a ps b rest hjoin ih =>
      have hends : ends text (.literal (a ++ b)) places
          = ends text (.literal b) (ends text (.literal a) places) := by
        rw [ends, ends, ends, List.filterMap_filterMap]
        exact List.filterMap_congr fun _ _ => afterLiteral?_append a b _
      rw [endsOfAll_cons, endsOfAll_cons, ← ih, hjoin, endsOfAll_cons, hends]
  | case4 a ps rest ih => rw [endsOfAll_cons, ih, endsOfAll_cons]
  | case5 p ps _ _ ih => rw [endsOfAll_cons, ih, endsOfAll_cons]

/-- A sequence moves as what it was made from. -/
theorem ends_concat (ps : List Pattern) (places : List Nat) :
    (concat ps).ends text places = endsOfAll text ps places := by
  rw [concat, ends_ofParts, endsOfAll_joinLiterals, endsOfAll_flatMap_parts]

end Pattern

-- ========================================================= repetitions

section

variable {step : List Nat → List Nat} {next : Nat → Nat → Prop}
  {seen new : List Nat} {i j : Nat}

/-- What was seen stays. -/
theorem subset_reach (n : Nat) : seen ⊆ reach step n seen new := by
  fun_induction reach step n seen new with
  | case1 => exact List.Subset.refl _
  | case2 => exact List.Subset.refl _
  | case3 n seen new _ ih =>
      exact List.Subset.trans (List.subset_append_left seen _) ih

variable (hstep : ∀ places j, j ∈ step places ↔ ∃ i ∈ places, next i j)

include hstep

/-- Nothing is reached but by rounds from what was seen. -/
theorem exists_of_mem_reach (n : Nat) (hnew : new ⊆ seen)
    (hj : j ∈ reach step n seen new) :
    ∃ i ∈ seen, Relation.ReflTransGen next i j := by
  fun_induction reach step n seen new with
  | case1 => exact ⟨j, hj, .refl⟩
  | case2 => exact ⟨j, hj, .refl⟩
  | case3 n seen new _ ih =>
      obtain ⟨k, hk, hkj⟩ := ih (List.subset_append_right seen _) hj
      rcases List.mem_append.mp hk with hk | hk
      · exact ⟨k, hk, hkj⟩
      · rw [List.mem_filter, hstep] at hk
        obtain ⟨⟨i, hi, hik⟩, -⟩ := hk
        exact ⟨i, hnew hi, hkj.head hik⟩

/-- All that is reached has been gone on from, if there were as many rounds
as places ahead. -/
theorem reach_closed {bound : Nat}
    (hnext : ∀ i j, next i j → i < j ∧ j ≤ bound) {n low : Nat}
    (hn : bound < n + low) (hlow : ∀ i ∈ new, low ≤ i)
    (hseen : ∀ i ∈ seen, ∀ j, next i j → j ∈ seen ∨ i ∈ new)
    (hi : i ∈ reach step n seen new) (hij : next i j) :
    j ∈ reach step n seen new := by
  fun_induction reach step n seen new generalizing low with
  | case1 seen new =>
      refine (hseen i hi j hij).resolve_right fun hnew => ?_
      have := hlow i hnew
      have := hnext i j hij
      omega
  | case2 n seen new hfound =>
      rcases hseen i hi j hij with h | h
      · exact h
      · -- nothing new was found
        by_contra hj
        have hmem : j ∈ (step new).filter (!seen.contains ·) := by
          rw [List.mem_filter, hstep]
          exact ⟨⟨i, h, hij⟩, by simpa using hj⟩
        rw [hfound] at hmem
        cases hmem
  | case3 n seen new _ ih =>
      have hmem : ∀ k, k ∈ (step new).filter (!seen.contains ·)
          ↔ (∃ i ∈ new, next i k) ∧ k ∉ seen := by
        intro k
        rw [List.mem_filter, hstep]
        simp
      have hless : bound < n + (low + 1) := by omega
      refine ih hless (fun k hk => ?_) (fun k hk l hkl => ?_) hi
      · obtain ⟨⟨i, hi, hik⟩, -⟩ := (hmem k).mp hk
        have := hlow i hi
        have := hnext i k hik
        omega
      · rcases List.mem_append.mp hk with hk | hk
        · by_cases hl : l ∈ seen
          · exact .inl (List.mem_append_left _ hl)
          · have hknew := (hseen k hk l hkl).resolve_left hl
            exact .inl (List.mem_append_right _
              ((hmem l).mpr ⟨⟨k, hknew, hkl⟩, hl⟩))
        · exact .inr hk

/-- What a repetition reaches, if rounds go forward and stay in bounds. -/
theorem mem_reach_iff {bound : Nat}
    (hnext : ∀ i j, next i j → i < j ∧ j ≤ bound) (start : List Nat) :
    j ∈ reach step (bound + 1) start start
      ↔ ∃ i ∈ start, Relation.ReflTransGen next i j := by
  refine ⟨exists_of_mem_reach hstep _ (List.Subset.refl _), ?_⟩
  rintro ⟨i, hi, hij⟩
  induction hij with
  | refl => exact subset_reach _ hi
  | tail _ hjk ih =>
      have henough : bound < bound + 1 + 0 := Nat.lt_succ_self bound
      exact reach_closed hstep hnext henough
        (fun _ _ => Nat.zero_le _) (fun _ hi _ _ => .inr hi) ih hjk

end

end Overlay.Regex
