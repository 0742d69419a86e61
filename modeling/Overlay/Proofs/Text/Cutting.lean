/-
What cutting a text tells about the parts.

A lead, a first separator, a mark: each cut gives the text back when the
parts are put together again (`after?_eq_some_iff`,
`splitLast?_eq_some_iff`, `eq_of_splitAtText?`), and the part in front
of the cut does not hold what was looked for. The converse, that a cut
is found exactly where the text was put together, needs the mark not to
begin earlier; for the marks of a document that is a matter of their
last characters (`splitAtText?_append`).
-/
import Mathlib
import Overlay.Text.Cut

namespace Overlay.Text

-- =============================================================== leads

/-- A text goes on after a lead exactly if it begins with it. -/
theorem after?_eq_some_iff {lead text rest : List Char} :
    after? lead text = some rest ↔ text = lead ++ rest := by
  induction lead generalizing text with
  | nil => simp [after?, eq_comm]
  | cons l lead ih =>
      cases text with
      | nil => simp [after?]
      | cons c text =>
          by_cases h : l = c
          · simp [after?, h, ih]
          · have h' : ¬ c = l := fun e => h e.symm
            simp [after?, h, h']

theorem after?_append (lead rest : List Char) :
    after? lead (lead ++ rest) = some rest :=
  after?_eq_some_iff.mpr rfl

/-- A text ends in a tail exactly if it goes on with it somewhere. -/
theorem before?_eq_some_iff {tail text front : List Char} :
    before? tail text = some front ↔ text = front ++ tail := by
  rw [before?, Option.map_eq_some_iff]
  constructor
  · rintro ⟨back, h, rfl⟩
    rw [after?_eq_some_iff] at h
    simpa using congrArg List.reverse h
  · rintro rfl
    exact ⟨front.reverse, by simp [after?_eq_some_iff], by simp⟩

/-- No lead but the empty one begins an empty text. -/
theorem after?_nil {lead : List Char} (h : lead ≠ []) :
    after? lead [] = none := by
  cases lead with
  | nil => exact absurd rfl h
  | cons l lead => rfl

/-- A text that begins with another character has no such lead. -/
theorem after?_cons_ne {l c : Char} (h : c ≠ l) (lead text : List Char) :
    after? (l :: lead) (c :: text) = none := by
  have h' : ¬ l = c := fun e => h e.symm
  simp [after?, h']

-- ================================================================ runs

section Runs

variable {p : Char → Bool} {front rest : List Char}

/-- There is no run where something else begins. -/
theorem takeWhile_of_head (hrest : ∀ c ∈ rest.head?, p c = false) :
    rest.takeWhile p = [] := by
  cases rest with
  | nil => rfl
  | cons c rest => simp [hrest c rfl]

theorem dropWhile_of_head (hrest : ∀ c ∈ rest.head?, p c = false) :
    rest.dropWhile p = rest := by
  cases rest with
  | nil => rfl
  | cons c rest => simp [hrest c rfl]

/-- A run of characters ends where something else begins. -/
theorem takeWhile_front (h : ∀ c ∈ front, p c = true)
    (hrest : ∀ c ∈ rest.head?, p c = false) :
    (front ++ rest).takeWhile p = front := by
  rw [List.takeWhile_append_of_pos h, takeWhile_of_head hrest,
    List.append_nil]

theorem dropWhile_front (h : ∀ c ∈ front, p c = true)
    (hrest : ∀ c ∈ rest.head?, p c = false) :
    (front ++ rest).dropWhile p = rest := by
  rw [List.dropWhile_append_of_pos h, dropWhile_of_head hrest]

/-- Every text begins with a run, which may be empty. -/
theorem exists_front (p : Char → Bool) (cs : List Char) :
    ∃ front rest, cs = front ++ rest ∧ (∀ c ∈ front, p c = true)
      ∧ ∀ c ∈ rest.head?, p c = false := by
  refine ⟨cs.takeWhile p, cs.dropWhile p,
    List.takeWhile_append_dropWhile.symm,
    fun c hc => List.mem_takeWhile_imp hc, fun c hc => ?_⟩
  have hstop := List.head?_dropWhile_not p cs
  rw [Option.mem_def.mp hc] at hstop
  exact hstop

end Runs

-- =============================================================== marks

/-- The parts around a mark, and the mark, are the text. -/
theorem eq_of_splitAtText? {mark cs before rest : List Char}
    (h : splitAtText? mark cs = some (before, rest)) :
    cs = before ++ mark ++ rest := by
  induction cs generalizing before with
  | nil =>
      rw [splitAtText?] at h
      cases ha : after? mark [] with
      | none => simp [ha] at h
      | some r =>
          obtain ⟨rfl, rfl⟩ : before = [] ∧ r = rest := by
            simpa [ha, eq_comm] using h
          simpa using after?_eq_some_iff.mp ha
  | cons c cs ih =>
      rw [splitAtText?] at h
      cases ha : after? mark (c :: cs) with
      | some r =>
          obtain ⟨rfl, rfl⟩ : before = [] ∧ r = rest := by
            simpa [ha, eq_comm] using h
          simpa using after?_eq_some_iff.mp ha
      | none =>
          simp only [ha, Option.map_eq_some_iff, Prod.mk.injEq] at h
          obtain ⟨⟨b, r⟩, hs, rfl, rfl⟩ := h
          simp [ih hs]

/-- The part in front of the first mark does not hold the mark. -/
theorem contains_before {mark cs before rest : List Char}
    (hm : mark ≠ [])
    (h : splitAtText? mark cs = some (before, rest)) :
    contains mark before = false := by
  induction cs generalizing before with
  | nil => simp [splitAtText?, after?_nil hm] at h
  | cons c cs ih =>
      rw [splitAtText?] at h
      cases ha : after? mark (c :: cs) with
      | some r =>
          obtain ⟨rfl, -⟩ : before = [] ∧ r = rest := by
            simpa [ha, eq_comm] using h
          simp [contains, splitAtText?, after?_nil hm]
      | none =>
          simp only [ha, Option.map_eq_some_iff, Prod.mk.injEq] at h
          obtain ⟨⟨b, r⟩, hs, rfl, rfl⟩ := h
          have hb := ih hs
          have hcs := eq_of_splitAtText? hs
          rw [contains, splitAtText?]
          cases hb' : after? mark (c :: b) with
          | none => simpa [contains] using hb
          | some r' =>
              have hl := after?_eq_some_iff.mp hb'
              rw [hcs, List.append_assoc, ← List.cons_append, hl,
                List.append_assoc, after?_append] at ha
              cases ha

/-- A mark is found in what goes on with it. -/
theorem contains_append (mark front back : List Char) :
    contains mark (front ++ (mark ++ back)) = true := by
  induction front with
  | nil =>
      rw [List.nil_append, contains, splitAtText?.eq_def, after?_append]
      rfl
  | cons c front ih =>
      rw [List.cons_append, contains, splitAtText?]
      cases after? mark (c :: (front ++ (mark ++ back))) with
      | some r => rfl
      | none => simpa [contains] using ih

/-- The first mark is the one behind a text if none begins in the
text. -/
theorem splitAtText?_append {mark before : List Char} (rest : List Char)
    (h : ∀ front back, before = front ++ back → back ≠ [] →
      after? mark (back ++ (mark ++ rest)) = none) :
    splitAtText? mark (before ++ (mark ++ rest)) = some (before, rest) := by
  induction before with
  | nil =>
      rw [List.nil_append, splitAtText?.eq_def, after?_append]
  | cons c before ih =>
      have hfirst := h [] (c :: before) rfl (List.cons_ne_nil _ _)
      rw [List.cons_append] at hfirst
      rw [List.cons_append, splitAtText?, hfirst]
      simp only
      rw [ih fun front back he hne => h (c :: front) back (by simp [he]) hne]
      rfl

-- ========================================================== separators

/-- What a split yields is part of the text and free of separators. -/
theorem mem_of_mem_splitWhere {p : Char → Bool} {cs part : List Char}
    (h : part ∈ splitWhere p cs) {c : Char} (hc : c ∈ part) :
    c ∈ cs ∧ p c = false := by
  induction cs generalizing part with
  | nil => simp_all [splitWhere]
  | cons a cs ih =>
      rw [splitWhere] at h
      by_cases ha : p a = true
      · rw [if_pos ha, List.mem_cons] at h
        rcases h with rfl | h
        · cases hc
        · have := ih h hc
          exact ⟨List.mem_cons_of_mem a this.1, this.2⟩
      · rw [if_neg ha] at h
        cases hs : splitWhere p cs with
        | nil => exact absurd hs (splitWhere_ne_nil p cs)
        | cons first others =>
            rw [hs] at h ih
            rw [List.mem_cons] at h
            rcases h with rfl | h
            · rcases List.mem_cons.mp hc with rfl | hc
              · exact ⟨List.mem_cons_self .., by simpa using ha⟩
              · have := ih (List.mem_cons_self ..) hc
                exact ⟨List.mem_cons_of_mem a this.1, this.2⟩
            · have := ih (List.mem_cons_of_mem _ h) hc
              exact ⟨List.mem_cons_of_mem a this.1, this.2⟩

/-- What a split yields stands in the text. -/
theorem sublist_of_mem_splitWhere {p : Char → Bool} {cs part : List Char}
    (h : part ∈ splitWhere p cs) : part.Sublist cs := by
  induction cs generalizing part with
  | nil =>
      rw [splitWhere, List.mem_singleton] at h
      exact h ▸ .slnil
  | cons a cs ih =>
      rw [splitWhere] at h
      split at h
      · rcases List.mem_cons.mp h with rfl | h
        · exact List.nil_sublist _
        · exact (ih h).cons a
      · split at h
        case h_1 hs => exact absurd hs (splitWhere_ne_nil p cs)
        case h_2 first others hs =>
            rw [hs] at ih
            rcases List.mem_cons.mp h with rfl | h
            · exact (ih (List.mem_cons_self ..)).cons_cons a
            · exact (ih (List.mem_cons_of_mem _ h)).cons a

/-- A text without separators is not split. -/
theorem splitWhere_of_forall {p : Char → Bool} {cs : List Char}
    (h : ∀ c ∈ cs, p c = false) : splitWhere p cs = [cs] := by
  induction cs with
  | nil => rfl
  | cons c cs ih =>
      obtain ⟨hc, hcs⟩ := List.forall_mem_cons.mp h
      rw [splitWhere, hc, ih hcs]
      rfl

theorem splitOn_of_not_mem {sep : Char} {cs : List Char}
    (h : sep ∉ cs) : splitOn sep cs = [cs] :=
  splitWhere_of_forall fun _ hc => beq_false_of_ne fun heq => h (heq ▸ hc)

/-- The first separator ends the first part. -/
theorem splitOn_append {sep : Char} {before : List Char}
    (h : sep ∉ before) (rest : List Char) :
    splitOn sep (before ++ sep :: rest) = before :: splitOn sep rest := by
  induction before with
  | nil => simp [splitOn, splitWhere]
  | cons c cs ih =>
      rw [List.mem_cons, not_or] at h
      have hc : (c == sep) = false := by
        simpa using fun e : c = sep => h.1 e.symm
      have := ih h.2
      rw [splitOn] at this ⊢
      simp [splitWhere, hc, this]

/-- Joined parts are the first one, and the separator and a part for each
of the others. -/
theorem intercalate_cons_eq_flatMap (sep first : List Char)
    (rest : List (List Char)) :
    sep.intercalate (first :: rest) = first ++ rest.flatMap (sep ++ ·) := by
  induction rest generalizing first with
  | nil => rw [List.intercalate_singleton, List.flatMap_nil, List.append_nil]
  | cons next rest ih =>
      rw [List.intercalate_cons_cons, ih, List.flatMap_cons,
        List.append_assoc, List.append_assoc]

/-- Joined parts hold nothing but the separator and what the parts
hold. -/
theorem mem_intercalate {sep c : Char} {parts : List (List Char)}
    (h : c ∈ [sep].intercalate parts) : c = sep ∨ ∃ part ∈ parts, c ∈ part := by
  cases parts with
  | nil => simp at h
  | cons first rest =>
      rw [intercalate_cons_eq_flatMap, List.mem_append, List.mem_flatMap] at h
      rcases h with h | ⟨part, hpart, h⟩
      · exact .inr ⟨first, List.mem_cons_self .., h⟩
      · rw [List.singleton_append, List.mem_cons] at h
        exact h.imp_right fun h => ⟨part, List.mem_cons_of_mem _ hpart, h⟩

/-- Parts without separators are found again where they were joined. -/
theorem splitOn_intercalate {sep : Char} {parts : List (List Char)}
    (hne : parts ≠ []) (h : ∀ part ∈ parts, sep ∉ part) :
    splitOn sep ([sep].intercalate parts) = parts := by
  induction parts with
  | nil => exact absurd rfl hne
  | cons part parts ih =>
      have hpart := h part (List.mem_cons_self ..)
      cases parts with
      | nil =>
          rw [List.intercalate_singleton]
          exact splitOn_of_not_mem hpart
      | cons next parts =>
          have ih := ih (List.cons_ne_nil _ _) fun p hp =>
            h p (List.mem_cons_of_mem _ hp)
          rw [List.intercalate_cons_cons, List.append_assoc,
            List.singleton_append, splitOn_append hpart, ih]

/-- The first separator divides a text. -/
theorem splitFirst?_eq_some_iff {sep : Char} {cs before rest : List Char} :
    splitFirst? sep cs = some (before, rest)
      ↔ cs = before ++ sep :: rest ∧ sep ∉ before := by
  induction cs generalizing before with
  | nil => simp [splitFirst?]
  | cons c cs ih =>
      rw [splitFirst?]
      by_cases hc : c = sep
      · subst hc
        cases before with
        | nil => simp [eq_comm]
        | cons b before =>
            simp only [beq_self_eq_true, ↓reduceIte, Option.some.injEq,
              Prod.mk.injEq, List.cons_append, List.cons.injEq,
              List.mem_cons, not_or]
            constructor
            · rintro ⟨h, -⟩
              cases h
            · rintro ⟨⟨rfl, -⟩, h, -⟩
              exact absurd rfl h
      · have hb : (c == sep) = false := by simpa using hc
        cases before with
        | nil => simp [hb, hc]
        | cons b before =>
            simp only [hb, Bool.false_eq_true, ↓reduceIte,
              Option.map_eq_some_iff, Prod.exists, Prod.mk.injEq,
              List.cons.injEq, List.cons_append, List.mem_cons, not_or]
            constructor
            · rintro ⟨b', r', hs, ⟨rfl, rfl⟩, rfl⟩
              obtain ⟨h1, h2⟩ := ih.mp hs
              exact ⟨⟨rfl, h1⟩, fun e => hc e.symm, h2⟩
            · rintro ⟨⟨rfl, h1⟩, -, h2⟩
              exact ⟨before, rest, ih.mpr ⟨h1, h2⟩, ⟨rfl, rfl⟩, rfl⟩

/-- Without a separator there is no division. -/
theorem splitFirst?_eq_none_iff {sep : Char} {cs : List Char} :
    splitFirst? sep cs = none ↔ sep ∉ cs := by
  induction cs with
  | nil => simp [splitFirst?]
  | cons c cs ih =>
      rw [splitFirst?]
      by_cases hc : c = sep
      · simp [hc]
      · have h' : ¬ sep = c := fun e => hc e.symm
        simp [hc, h', ih]

/-- A separator stands between two parts. -/
theorem two_le_length_splitOn {sep : Char} {cs : List Char}
    (h : sep ∈ cs) : 2 ≤ (splitOn sep cs).length := by
  cases hsplit : splitFirst? sep cs with
  | none => exact absurd h (splitFirst?_eq_none_iff.mp hsplit)
  | some parts =>
      obtain ⟨rfl, hno⟩ := splitFirst?_eq_some_iff.mp hsplit
      rw [splitOn_append hno, List.length_cons]
      have hne : splitOn sep parts.2 ≠ [] := splitWhere_ne_nil _ _
      have := List.length_pos_of_ne_nil hne
      omega

/-- The last separator divides a text. -/
theorem splitLast?_eq_some_iff {sep : Char} {cs before rest : List Char} :
    splitLast? sep cs = some (before, rest)
      ↔ cs = before ++ sep :: rest ∧ sep ∉ rest := by
  simp only [splitLast?, Option.map_eq_some_iff, Prod.exists,
    Prod.mk.injEq, splitFirst?_eq_some_iff]
  constructor
  · rintro ⟨a, b, ⟨h, ha⟩, rfl, rfl⟩
    have := congrArg List.reverse h
    simp only [List.reverse_reverse, List.reverse_append,
      List.reverse_cons, List.append_assoc, List.singleton_append] at this
    exact ⟨this, by simpa using ha⟩
  · rintro ⟨rfl, h⟩
    exact ⟨rest.reverse, before.reverse, by simpa using h, by simp⟩

/-- Without a separator there is no division. -/
theorem splitLast?_eq_none_iff {sep : Char} {cs : List Char} :
    splitLast? sep cs = none ↔ sep ∉ cs := by
  rw [splitLast?, Option.map_eq_none_iff, splitFirst?_eq_none_iff,
    List.mem_reverse]

end Overlay.Text
