/-
What a name pattern matches.

A pattern is read character by character: a star stands for a stretch
without line feeds, which may be empty, and everything else for itself
(`Fits`). The matcher does not go by characters. It looks for the parts of
the pattern between its stars, from the last one to the first, and keeps
for the text and each of its tails whether the parts from some part on are
found there (`Tells`). That tells what fits (`isMatch_iff`), since a
stretch is either over or takes one more character (`fits_star_cons_iff`),
which is the one thing that the matcher asks at every place.
-/
import Overlay.Address.Wildcard
import Overlay.Proofs.Text.Cutting

namespace Overlay.Wildcard

open Text

-- ================================================================ fits

/-- Whether a text fits a pattern. -/
inductive Fits : List Char → List Char → Prop
  | nil : Fits [] []
  | char {c : Char} {pattern text : List Char} (hc : c ≠ '*')
      (h : Fits pattern text) : Fits (c :: pattern) (c :: text)
  | star (gap : List Char) {pattern text : List Char} (hgap : '\n' ∉ gap)
      (h : Fits pattern text) : Fits ('*' :: pattern) (gap ++ text)

section

variable {c : Char} {pattern text part : List Char}

theorem fits_nil_iff : Fits [] text ↔ text = [] := by
  constructor
  · rintro ⟨⟩
    rfl
  · rintro rfl
    exact .nil

theorem fits_char_iff (hc : c ≠ '*') :
    Fits (c :: pattern) text
      ↔ ∃ rest, text = c :: rest ∧ Fits pattern rest := by
  constructor
  · intro h
    cases h with
    | char _ h => exact ⟨_, rfl, h⟩
    | star => exact absurd rfl hc
  · rintro ⟨rest, rfl, h⟩
    exact .char hc h

theorem fits_star_iff :
    Fits ('*' :: pattern) text
      ↔ ∃ gap rest, text = gap ++ rest ∧ '\n' ∉ gap ∧ Fits pattern rest := by
  constructor
  · intro h
    cases h with
    | char hc => exact absurd rfl hc
    | star gap hgap h => exact ⟨gap, _, rfl, hgap, h⟩
  · rintro ⟨gap, rest, rfl, hgap, h⟩
    exact .star gap hgap h

/-- A part without stars stands for itself. -/
theorem fits_append_iff (hpart : '*' ∉ part) :
    Fits (part ++ pattern) text
      ↔ ∃ rest, text = part ++ rest ∧ Fits pattern rest := by
  induction part generalizing text with
  | nil => simp
  | cons c part ih =>
      simp only [List.mem_cons, not_or] at hpart
      obtain ⟨hc, hpart⟩ := hpart
      rw [List.cons_append, fits_char_iff (Ne.symm hc)]
      simp only [ih hpart, List.cons_append]
      constructor
      · rintro ⟨_, rfl, rest, rfl, h⟩
        exact ⟨rest, rfl, h⟩
      · rintro ⟨rest, rfl, h⟩
        exact ⟨_, rfl, rest, rfl, h⟩

/-- A pattern without stars fits itself only. -/
theorem fits_iff_eq (h : '*' ∉ pattern) :
    Fits pattern text ↔ pattern = text := by
  have hwhole : Fits (pattern ++ []) text
      ↔ ∃ rest, text = pattern ++ rest ∧ Fits [] rest := fits_append_iff h
  simp only [List.append_nil, fits_nil_iff] at hwhole
  rw [hwhole]
  constructor
  · rintro ⟨_, rfl, rfl⟩
    simp
  · rintro rfl
    exact ⟨[], by simp, rfl⟩

/-- A star takes a character of a stretch or none at all. -/
theorem fits_star_cons_iff {d : Char} :
    Fits ('*' :: pattern) (d :: text)
      ↔ Fits pattern (d :: text) ∨ d ≠ '\n' ∧ Fits ('*' :: pattern) text := by
  rw [fits_star_iff, fits_star_iff]
  constructor
  · rintro ⟨gap, rest, heq, hgap, h⟩
    cases gap with
    | nil => exact .inl (by rwa [heq])
    | cons e gap =>
        obtain ⟨rfl, rfl⟩ := List.cons.inj heq
        simp only [List.mem_cons, not_or] at hgap
        exact .inr ⟨Ne.symm hgap.1, gap, rest, rfl, hgap.2, h⟩
  · rintro (h | ⟨hd, gap, rest, rfl, hgap, h⟩)
    · exact ⟨[], d :: text, rfl, by simp, h⟩
    · exact ⟨d :: gap, rest, rfl, by simp [Ne.symm hd, hgap], h⟩

theorem fits_star_nil_iff : Fits ('*' :: pattern) [] ↔ Fits pattern [] := by
  rw [fits_star_iff]
  constructor
  · rintro ⟨gap, rest, heq, -, h⟩
    obtain ⟨-, rfl⟩ := List.append_eq_nil_iff.mp heq.symm
    exact h
  · exact fun h => ⟨[], [], rfl, by simp, h⟩

end

-- =============================================================== parts

/-- Answers for a text and each of its tails, the text first. -/
def Tells (holds : List Char → Prop) (text : List Char)
    (answers : List Bool) : Prop :=
  List.Forall₂ (fun answer tail => answer = true ↔ holds tail) answers
    text.tails

section

variable {holds : List Char → Prop} {text part : List Char}
  {answers : List Bool}

/-- The answer for a text. -/
theorem Tells.head (h : Tells holds text answers) :
    answers.headD false = true ↔ holds text := by
  cases text <;> cases h <;> assumption

/-- The answer for what stands behind a part. -/
theorem Tells.after (h : Tells holds text answers) :
    ((after? part text).isSome
        && (answers.drop part.length).headD false) = true
      ↔ ∃ rest, text = part ++ rest ∧ holds rest := by
  rw [Bool.and_eq_true, Option.isSome_iff_exists]
  have hdrop : ∀ {rest}, text = part ++ rest →
      Tells holds rest (answers.drop part.length) := by
    rintro rest rfl
    induction part generalizing answers with
    | nil => exact h
    | cons c part ih =>
        rw [Tells, List.cons_append, List.tails_cons] at h
        cases h with
        | cons _ h => exact ih h
  constructor
  · rintro ⟨⟨rest, hrest⟩, hanswer⟩
    have heq := after?_eq_some_iff.mp hrest
    exact ⟨rest, heq, (hdrop heq).head.mp hanswer⟩
  · rintro ⟨rest, heq, hrest⟩
    exact ⟨⟨rest, after?_eq_some_iff.mpr heq⟩, (hdrop heq).head.mpr hrest⟩

/-- One more part, after a stretch. -/
theorem Tells.followed {pattern : List Char} (hpart : '*' ∉ part)
    (h : Tells (Fits pattern) text answers) :
    Tells (Fits ('*' :: part ++ pattern)) text
      (followed part text answers) := by
  have hhere : ∀ {text answers}, Tells (Fits pattern) text answers →
      (((after? part text).isSome
          && (answers.drop part.length).headD false) = true
        ↔ Fits (part ++ pattern) text) := fun h => by
    rw [h.after, fits_append_iff hpart]
  induction text generalizing answers with
  | nil =>
      have hhere := hhere h
      refine List.forall₂_cons.mpr ⟨?_, .nil⟩
      rw [List.cons_append, fits_star_nil_iff, ← hhere]
      cases part <;> simp [after?]
  | cons c cs ih =>
      have hhere := hhere h
      rw [Tells, List.tails_cons] at h
      cases h with
      | @cons answer _ later _ hanswer hlater =>
          have hbelow := ih hlater
          rw [Tells, Wildcard.followed, List.tails_cons, List.forall₂_cons]
          refine ⟨?_, hbelow⟩
          rw [List.cons_append, fits_star_cons_iff, ← hhere,
            ← List.cons_append, ← hbelow.head]
          simp

end

/-- What is told of the parts of a pattern behind its first one. -/
theorem matchTails_tells (text : List Char) {parts : List (List Char)}
    (hparts : ∀ part ∈ parts, '*' ∉ part) :
    Tells (Fits (parts.flatMap ('*' :: ·))) text (matchTails text parts) := by
  induction parts with
  | nil =>
      rw [matchTails, List.flatMap_nil]
      induction text with
      | nil => exact List.forall₂_cons.mpr ⟨by simp [fits_nil_iff], .nil⟩
      | cons c cs ih =>
          rw [Tells, List.tails_cons]
          exact .cons (by simp [fits_nil_iff]) ih
  | cons part parts ih =>
      obtain ⟨hpart, hparts⟩ := List.forall_mem_cons.mp hparts
      exact (ih hparts).followed hpart

/-- The parts of a pattern between its stars. -/
theorem exists_parts (pattern : List Char) :
    ∃ first rest, splitOn '*' pattern = first :: rest
      ∧ (∀ part ∈ first :: rest, '*' ∉ part)
      ∧ pattern = first ++ rest.flatMap ('*' :: ·) := by
  obtain ⟨first, rest, hparts⟩ := List.exists_cons_of_ne_nil
    (splitWhere_ne_nil (· == '*') pattern)
  refine ⟨first, rest, hparts, fun part hpart hc => ?_, ?_⟩
  · rw [← hparts] at hpart
    simpa using (mem_of_mem_splitWhere hpart hc).2
  · have hjoin := intercalate_splitOn '*' pattern
    rw [splitOn, hparts, intercalate_cons_eq_flatMap] at hjoin
    exact hjoin.symm

/-- Looking for the parts of a pattern tells what fits it. -/
theorem matchLiterals_iff (pattern : String) (text : List Char) :
    matchLiterals (literals pattern) text = true
      ↔ Fits pattern.toList text := by
  obtain ⟨first, rest, hparts, hstar, hpattern⟩ := exists_parts pattern.toList
  obtain ⟨hfirst, hrest⟩ := List.forall_mem_cons.mp hstar
  rw [literals, hparts, matchLiterals, (matchTails_tells text hrest).after,
    hpattern, fits_append_iff hfirst]

/-- What matches a pattern, by its parts if it has a star. -/
theorem isMatch_iff (pattern text : String) :
    isMatch pattern text = true ↔ Fits pattern.toList text.toList := by
  rw [isMatch]
  split
  case isTrue => exact matchLiterals_iff pattern text.toList
  case isFalse h =>
      rw [isWild, List.contains_iff_mem] at h
      rw [fits_iff_eq h, beq_iff_eq, String.toList_inj]

end Overlay.Wildcard
