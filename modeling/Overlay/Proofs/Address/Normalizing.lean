/-
Addresses and their normal forms.

# Grammatical addresses

`Address.IsGrammatical` says which addresses there are, in terms of the
parts: the names of the steps and of the attribute are spelled by the
grammar of names, a shape has as many steps as it needs, a position is a
word other than zero, and a qualifier is trimmed and holds no brace.
Whatever is read is grammatical (`grammatical_of_parse`).

# Reading a normal form

A normal form has no white space but in the qualifier, so that trimming
leaves it alone, and its marks stand in no name: the first closing brace
ends the qualifier, the last `@` begins the attribute, and the separators
of the shape stand between the steps. So every stage of the reader undoes
the stage of the printer that it is named after (`splitPosition_render`,
`splitSteps_render`, `splitAttribute_render`, `splitQualifier_render`),
and reading gives the address back.
-/
import Overlay.Address.Printer
import Overlay.Address.Reader
import Overlay.Proofs.Decimal.Digits
import Overlay.Proofs.Outcome
import Overlay.Proofs.Text.Cutting
import Overlay.Proofs.Text.Trimming

namespace Overlay

open Text

-- =============================================================== names

namespace Address

/-- Every character of a name may begin or continue it. -/
theorem of_mem_name {dots : Bool} {cs : List Char}
    (h : isName dots cs = true) {c : Char} (hc : c ∈ cs) :
    startsName c = true ∨ continuesName dots c = true := by
  cases cs with
  | nil => cases hc
  | cons first rest =>
      rw [isName, Bool.and_eq_true, List.all_eq_true] at h
      rcases List.mem_cons.mp hc with rfl | hc
      · exact .inl h.1
      · exact .inr (h.2 c hc)

/-- What may neither begin nor continue a name does not stand in one. -/
theorem not_mem_name {dots : Bool} {cs : List Char}
    (h : isName dots cs = true) {c : Char} (hs : startsName c = false)
    (hc : continuesName dots c = false) : c ∉ cs := by
  intro hmem
  rcases of_mem_name h hmem with h | h
  · rw [hs] at h
    cases h
  · rw [hc] at h
    cases h

theorem name_ne_nil {dots : Bool} {cs : List Char}
    (h : isName dots cs = true) : cs ≠ [] := by
  rintro rfl
  cases h

/-- No blank stands in a name of an address. -/
theorem isBlank_of_mem_name {dots : Bool} {cs : List Char}
    (h : isName dots cs = true) {c : Char} (hc : c ∈ cs) :
    isBlank c = false := by
  rcases of_mem_name h hc with h | h
  · simp only [startsName, Bool.or_eq_true, beq_iff_eq] at h
    rcases h with (h | rfl) | rfl
    · exact isBlank_of_isWord (isWord_of_isLetter h)
    · rfl
    · rfl
  · simp only [continuesName, Bool.or_eq_true, Bool.and_eq_true,
      beq_iff_eq] at h
    rcases h with (((h | rfl) | rfl) | rfl) | ⟨-, rfl⟩
    · exact isBlank_of_isWord h
    all_goals rfl

end Address

-- =============================================================== steps

/-- A step that the grammar of addresses allows; `dots` says whether its
name may hold dots. -/
structure Step.IsGrammatical (dots : Bool) (s : Step) : Prop where
  name : Address.isName dots s.name.toList = true
  position : ∀ p, s.position = some p → 0 < p ∧ p < Decimal.wordBound

namespace Step

variable {dots : Bool} {s : Step}

/-- A step is its name with its position behind it, if it has one. -/
theorem toList_render (s : Step) :
    s.render.toList = s.name.toList
      ++ s.position.elim [] fun p => '[' :: Nat.toDigits 10 p ++ [']'] := by
  rw [render]
  cases s.position with
  | none => simp
  | some p => simp

/-- What stands in the text of a step. -/
theorem mem_render {c : Char} (h : c ∈ s.render.toList) :
    c ∈ s.name.toList ∨ isAsciiDigit c = true ∨ c = '[' ∨ c = ']' := by
  rw [toList_render, List.mem_append] at h
  rcases h with h | h
  · exact .inl h
  · refine .inr ?_
    cases hp : s.position with
    | none =>
        rw [hp] at h
        cases h
    | some p =>
        rw [hp, Option.elim_some, List.mem_append, List.mem_cons,
          List.mem_singleton] at h
        rcases h with (rfl | h) | rfl
        · exact .inr (.inl rfl)
        · exact .inl (Decimal.isAsciiDigit_of_mem_toDigits h)
        · exact .inr (.inr rfl)

/-- Marks that neither names nor brackets hold do not stand in a step. -/
theorem IsGrammatical.not_mem (h : s.IsGrammatical dots) {c : Char}
    (hs : Address.startsName c = false)
    (hc : Address.continuesName dots c = false)
    (hd : isAsciiDigit c = false) (ho : c ≠ '[') (hcl : c ≠ ']') :
    c ∉ s.render.toList := by
  intro hmem
  rcases mem_render hmem with hmem | hmem | rfl | rfl
  · exact Address.not_mem_name h.name hs hc hmem
  · rw [hd] at hmem
    cases hmem
  · exact ho rfl
  · exact hcl rfl

/-- So no blank stands in a step either, and trimming leaves it as it is. -/
theorem IsGrammatical.noBlank (h : s.IsGrammatical dots) :
    ∀ c ∈ s.render.toList, isBlank c = false := by
  intro c hc
  rcases mem_render hc with hc | hc | rfl | rfl
  · exact Address.isBlank_of_mem_name h.name hc
  · have hword : isWord c = true := by
      have hascii : isAscii c = true := by
        simp only [isAsciiDigit, Bool.and_eq_true, decide_eq_true_eq,
          Char.le_def, UInt32.le_iff_toNat_le] at hc
        have hnine : '9'.val.toNat = 57 := rfl
        simp only [isAscii, Char.toNat, decide_eq_true_eq]
        omega
      simp [isWord, hascii, hc]
    exact isBlank_of_isWord hword
  · rfl
  · rfl

/-- A step is not written as nothing. -/
theorem IsGrammatical.render_ne_nil (h : s.IsGrammatical dots) :
    s.render.toList ≠ [] := by
  rw [toList_render]
  exact fun hnil => Address.name_ne_nil h.name
    (List.append_eq_nil_iff.mp hnil).1

end Step

namespace Address

/-- The position of a step is found behind its name. -/
theorem splitPosition_render {dots : Bool} {s : Step}
    (h : s.IsGrammatical dots) :
    splitPosition s.render.toList = .ok (s.name.toList, s.position) := by
  have hclosing : ']' ∉ s.name.toList :=
    not_mem_name h.name rfl (by cases dots <;> rfl)
  have hopening : '[' ∉ s.name.toList :=
    not_mem_name h.name rfl (by cases dots <;> rfl)
  rw [Step.toList_render, splitPosition]
  cases hp : s.position with
  | none =>
      have hplain : before? [']'] s.name.toList = none := by
        rw [Option.eq_none_iff_forall_ne_some]
        intro front hfront
        rw [before?_eq_some_iff] at hfront
        exact hclosing (by simp [hfront])
      rw [Option.elim_none, List.append_nil, hplain]
  | some p =>
      obtain ⟨hpos, hword⟩ := h.position p hp
      have hhead : before? [']'] (s.name.toList
            ++ ('[' :: Nat.toDigits 10 p ++ [']']))
          = some (s.name.toList ++ '[' :: Nat.toDigits 10 p) := by
        simp [before?_eq_some_iff]
      have hsplit : splitFirst? '[' (s.name.toList
            ++ '[' :: Nat.toDigits 10 p)
          = some (s.name.toList, Nat.toDigits 10 p) :=
        splitFirst?_eq_some_iff.mpr ⟨rfl, hopening⟩
      have htrim : trimList (Nat.toDigits 10 p) = Nat.toDigits 10 p :=
        trimList_of_forall fun c hc => by
          have hd := Decimal.isAsciiDigit_of_mem_toDigits hc
          have hs : c ∈ s.render.toList := by
            rw [Step.toList_render, hp]
            simp [hc]
          exact h.noBlank c hs
      obtain ⟨q, rfl⟩ := Nat.exists_eq_succ_of_ne_zero hpos.ne'
      rw [Option.elim_some, hhead]
      simp only [hsplit, htrim, Decimal.unsigned?_toDigits hword]

/-- A step is read from its text. -/
theorem readStep_render {shape : Shape} {s : Step}
    (h : s.IsGrammatical (shape != .dotted)) :
    readStep shape s.render.toList = .ok s := by
  have hne : s.render.toList.isEmpty = false := by
    simpa using h.render_ne_nil
  unfold readStep
  simp only [trimList_of_forall h.noBlank, hne, Bool.false_eq_true,
    ↓reduceIte, splitPosition_render h, bind, Except.bind, h.name]
  simp [pure, Except.pure]

/-- Steps are read again as they are written. With dots between them, no name
may have one. -/
theorem mapM_readStep_render {shape : Shape} {steps : List Step}
    (h : ∀ s ∈ steps, s.IsGrammatical (shape != .dotted)) :
    (steps.map (·.render.toList)).mapM (readStep shape) = .ok steps := by
  induction steps with
  | nil => rfl
  | cons s rest ih =>
      rw [List.map_cons, List.mapM_cons,
        readStep_render (h s (List.mem_cons_self ..)),
        ih fun t ht => h t (List.mem_cons_of_mem s ht)]
      rfl

-- ============================================================== shapes

/-- An address that can be written: a qualifier is trimmed, not empty, and
holds no closing brace; there are two or more steps with dots between
them, or one step that stands bare and holds no dot, or any number of them
behind slashes. -/
structure IsGrammatical (a : Address) : Prop where
  qualifier : ∀ q, a.qualifier = some q →
    q ≠ "" ∧ trim q = q ∧ '}' ∉ q.toList
  steps : ∀ s ∈ a.steps, s.IsGrammatical (a.shape != .dotted)
  dotted : a.shape = .dotted → 2 ≤ a.steps.length
  bare : a.shape = .bare → ∃ s, a.steps = [s] ∧ '.' ∉ s.name.toList
  attr : ∀ name, a.attr = some name → isName true name.toList = true

theorem render_bare (s : Step) : Shape.bare.render [s] = s.render := by
  rw [Shape.render, List.map_singleton, join, ← String.toList_inj,
    String.toList_intercalate, List.map_singleton,
    List.intercalate_singleton]

section Rendering

variable {a : Address}

/-- What stands in the text of the steps. -/
theorem IsGrammatical.mem_render (h : a.IsGrammatical) {c : Char}
    (hc : c ∈ (a.shape.render a.steps).toList) :
    (a.shape = .rooted ∧ c = '/') ∨ (a.shape = .dotted ∧ c = '.')
      ∨ ∃ s ∈ a.steps, c ∈ s.render.toList := by
  have hjoin : ∀ {sep : Char},
      c ∈ [sep].intercalate ((a.steps.map Step.render).map String.toList) →
      c = sep ∨ ∃ s ∈ a.steps, c ∈ s.render.toList := by
    intro sep hc
    rcases mem_intercalate hc with rfl | ⟨part, hpart, hc⟩
    · exact .inl rfl
    · rw [List.map_map] at hpart
      obtain ⟨s, hs, rfl⟩ := List.mem_map.mp hpart
      exact .inr ⟨s, hs, hc⟩
  cases hshape : a.shape with
  | rooted =>
      rw [hshape, Shape.render, String.toList_append, List.mem_append, join,
        String.toList_intercalate] at hc
      rcases hc with hc | hc
      · exact .inl ⟨rfl, List.mem_singleton.mp hc⟩
      · rcases hjoin hc with hc | hc
        · exact .inl ⟨rfl, hc⟩
        · exact .inr (.inr hc)
  | dotted =>
      rw [hshape, Shape.render, join, String.toList_intercalate] at hc
      rcases hjoin hc with hc | hc
      · exact .inr (.inl ⟨rfl, hc⟩)
      · exact .inr (.inr hc)
  | bare =>
      obtain ⟨s, hs, -⟩ := h.bare hshape
      rw [hshape, hs, render_bare] at hc
      exact .inr (.inr ⟨s, by simp [hs], hc⟩)

/-- The marks of qualifiers and attributes do not stand in the steps. -/
theorem IsGrammatical.not_mem (h : a.IsGrammatical) {c : Char}
    (hs : startsName c = false) (hc : ∀ dots, continuesName dots c = false)
    (hd : isAsciiDigit c = false) (ho : c ∉ ['[', ']', '/', '.']) :
    c ∉ (a.shape.render a.steps).toList := by
  simp only [List.mem_cons, List.not_mem_nil, or_false, not_or] at ho
  intro hmem
  rcases h.mem_render hmem with ⟨-, rfl⟩ | ⟨-, rfl⟩ | ⟨s, hstep, hmem⟩
  · exact ho.2.2.1 rfl
  · exact ho.2.2.2 rfl
  · exact (h.steps s hstep).not_mem hs (hc _) hd ho.1 ho.2.1 hmem

theorem IsGrammatical.noBlank (h : a.IsGrammatical) :
    ∀ c ∈ (a.shape.render a.steps).toList, isBlank c = false := by
  intro c hc
  rcases h.mem_render hc with ⟨-, rfl⟩ | ⟨-, rfl⟩ | ⟨s, hs, hc⟩
  · rfl
  · rfl
  · exact (h.steps s hs).noBlank c hc

/-- Behind a slash, slashes separate parts that are not empty. -/
theorem splitSteps_rooted {parts : List (List Char)} (hne : parts ≠ [])
    (hnil : [] ∉ parts) (hslash : ∀ part ∈ parts, '/' ∉ part) :
    splitSteps ('/' :: ['/'].intercalate parts) = .ok (.rooted, parts) := by
  have hsplit := splitOn_intercalate hne hslash
  unfold splitSteps
  split
  case h_1 rest heq =>
      -- the first part would be empty
      rw [(List.cons.inj heq).2] at hsplit
      have hfirst : [] ∈ splitOn '/' ('/' :: rest) := by
        simp [splitOn, splitWhere]
      rw [hsplit] at hfirst
      exact absurd hfirst hnil
  case h_2 rest _ heq => rw [← (List.cons.inj heq).2, hsplit]
  case h_3 hother => exact absurd rfl (hother _)

/-- Without slashes, the steps are told by dots. -/
theorem splitSteps_of_not_mem {cs : List Char} (h : '/' ∉ cs) :
    splitSteps cs
      = .ok (if cs.contains '.' then (.dotted, splitOn '.' cs)
        else (.bare, [cs])) := by
  unfold splitSteps
  split
  case h_1 => exact absurd (List.mem_cons_self ..) h
  case h_2 => exact absurd (List.mem_cons_self ..) h
  case h_3 =>
      rw [if_neg (by simpa using h)]
      split <;> rfl

/-- The separators of a shape tell it, and the texts of its steps. -/
theorem splitSteps_render (h : a.IsGrammatical) :
    splitSteps (a.shape.render a.steps).toList
      = .ok (a.shape, a.steps.map (·.render.toList)) := by
  have hparts : (a.steps.map Step.render).map String.toList
      = a.steps.map (·.render.toList) := List.map_map
  have hne : a.steps.map (·.render.toList) ≠ [] := by
    simpa using a.steps_ne_nil
  have hnil : [] ∉ a.steps.map (·.render.toList) := by
    intro hmem
    obtain ⟨s, hs, hrender⟩ := List.mem_map.mp hmem
    exact (h.steps s hs).render_ne_nil hrender
  have hslash : ∀ part ∈ a.steps.map (·.render.toList), '/' ∉ part := by
    intro part hpart
    obtain ⟨s, hs, rfl⟩ := List.mem_map.mp hpart
    exact (h.steps s hs).not_mem rfl (by cases a.shape <;> rfl) rfl
      (by decide) (by decide)
  cases hshape : a.shape with
  | rooted =>
      rw [Shape.render, String.toList_append, join,
        String.toList_intercalate, hparts]
      exact splitSteps_rooted hne hnil hslash
  | dotted =>
      have hdot : ∀ part ∈ a.steps.map (·.render.toList), '.' ∉ part := by
        intro part hpart
        obtain ⟨s, hs, rfl⟩ := List.mem_map.mp hpart
        have hstep := h.steps s hs
        rw [hshape] at hstep
        exact hstep.not_mem rfl rfl rfl (by decide) (by decide)
      have hsplit := splitOn_intercalate hne hdot
      have hnoSlash : '/' ∉ ['.'].intercalate
          (a.steps.map (·.render.toList)) := by
        intro hmem
        rcases mem_intercalate hmem with hc | ⟨part, hpart, hc⟩
        · exact absurd hc (by decide)
        · exact hslash part hpart hc
      -- two steps have a dot between them
      have hsome : '.' ∈ ['.'].intercalate
          (a.steps.map (·.render.toList)) := by
        by_contra hno
        rw [splitOn_of_not_mem hno] at hsplit
        have hlen := congrArg List.length hsplit
        have htwo := h.dotted hshape
        rw [List.length_map, List.length_singleton] at hlen
        omega
      have hrender : (Shape.dotted.render a.steps).toList
          = ['.'].intercalate (a.steps.map (·.render.toList)) := by
        rw [Shape.render, join, String.toList_intercalate, hparts]
        rfl
      rw [hrender, splitSteps_of_not_mem hnoSlash,
        if_pos (by simpa using hsome), hsplit]
  | bare =>
      obtain ⟨s, hs, hname⟩ := h.bare hshape
      have hnoDot : '.' ∉ s.render.toList := by
        intro hmem
        rcases Step.mem_render hmem with hmem | hmem | hmem | hmem
        · exact hname hmem
        · cases hmem
        · exact absurd hmem (by decide)
        · exact absurd hmem (by decide)
      rw [hs, render_bare, splitSteps_of_not_mem (hslash _ (by simp [hs])),
        if_neg (by simpa using hnoDot)]
      rfl

-- ============================================== the parts of addresses

/-- The text of an address behind its qualifier. -/
def unqualified (a : Address) : List Char :=
  (a.shape.render a.steps).toList
    ++ a.attr.elim [] fun name => '@' :: name.toList

/-- The normal form has the qualifier in braces in front of all that has no
blanks. -/
theorem toList_normalize (a : Address) :
    a.normalize.toList
      = (a.qualifier.elim [] fun q => '{' :: q.toList ++ ['}'])
        ++ a.unqualified := by
  rw [normalize, unqualified]
  cases a.qualifier <;> cases a.attr <;> simp

theorem IsGrammatical.render_ne_nil (h : a.IsGrammatical) :
    (a.shape.render a.steps).toList ≠ [] := by
  intro hnil
  have hsteps := splitSteps_render h
  rw [hnil] at hsteps
  have hparts : a.steps.map (·.render.toList) = [[]] := by
    simpa [splitSteps] using (congrArg Prod.snd (Except.ok.inj hsteps)).symm
  obtain ⟨s, hs, hrender⟩ := List.mem_map.mp
    (hparts ▸ List.mem_singleton_self [] :
      [] ∈ a.steps.map (·.render.toList))
  exact (h.steps s hs).render_ne_nil hrender

/-- Behind the qualifier there is no blank, so that trimming takes nothing
away. -/
theorem IsGrammatical.noBlank_unqualified (h : a.IsGrammatical) :
    ∀ c ∈ a.unqualified, isBlank c = false := by
  intro c hc
  rw [unqualified, List.mem_append] at hc
  rcases hc with hc | hc
  · exact h.noBlank c hc
  · cases hattr : a.attr with
    | none =>
        rw [hattr] at hc
        cases hc
    | some name =>
        rw [hattr, Option.elim_some, List.mem_cons] at hc
        rcases hc with rfl | hc
        · rfl
        · exact isBlank_of_mem_name (h.attr name hattr) hc

/-- Behind the qualifier there is something. -/
theorem IsGrammatical.unqualified_ne_nil (h : a.IsGrammatical) :
    a.unqualified ≠ [] := by
  rw [unqualified]
  exact fun hnil => h.render_ne_nil (List.append_eq_nil_iff.mp hnil).1

/-- What does not begin with a brace has no qualifier. -/
theorem splitQualifier_of_ne {cs : List Char}
    (h : ∀ rest, cs ≠ '{' :: rest) : splitQualifier cs = .ok (none, cs) := by
  unfold splitQualifier
  split
  case h_1 rest => exact absurd rfl (h rest)
  case h_2 => rfl

/-- The attribute is the part behind the last at sign, since there is none in a
name. -/
theorem splitAttribute_render (h : a.IsGrammatical) :
    splitAttribute a.unqualified
      = .ok (a.attr, (a.shape.render a.steps).toList) := by
  have hmark : '@' ∉ (a.shape.render a.steps).toList :=
    h.not_mem rfl (by intro dots; cases dots <;> rfl) rfl (by decide)
  have hne : (a.shape.render a.steps).toList.isEmpty = false := by
    simpa using h.render_ne_nil
  rw [unqualified, splitAttribute]
  cases hattr : a.attr with
  | none =>
      rw [Option.elim_none, List.append_nil,
        splitLast?_eq_none_iff.mpr hmark]
  | some name =>
      have hname := h.attr name hattr
      have hno : '@' ∉ name.toList := not_mem_name hname rfl rfl
      rw [Option.elim_some,
        splitLast?_eq_some_iff.mpr ⟨rfl, hno⟩]
      simp [hne, hname]

/-- The qualifier ends with the first brace that closes, since there is none in
it. Where there is none at all, what stands first is no brace. -/
theorem splitQualifier_render (h : a.IsGrammatical) :
    splitQualifier a.normalize.toList = .ok (a.qualifier, a.unqualified) := by
  have htrim := trimList_of_forall h.noBlank_unqualified
  have hne : a.unqualified.isEmpty = false := by
    simpa using h.unqualified_ne_nil
  rw [toList_normalize]
  cases hq : a.qualifier with
  | none =>
      have hbrace : ∀ rest, a.unqualified ≠ '{' :: rest := by
        intro rest heq
        have hmem : '{' ∉ (a.shape.render a.steps).toList :=
          h.not_mem rfl (by intro dots; cases dots <;> rfl) rfl (by decide)
        obtain ⟨c, cs, hcs⟩ := List.exists_cons_of_ne_nil h.render_ne_nil
        rw [unqualified, hcs, List.cons_append] at heq
        exact hmem (by simp [hcs, (List.cons.inj heq).1])
      rw [Option.elim_none, List.nil_append]
      exact splitQualifier_of_ne hbrace
  | some q =>
      obtain ⟨hqne, hqtrim, hbrace⟩ := h.qualifier q hq
      have hqlist : trimList q.toList = q.toList := by
        simpa [trim] using congrArg String.toList hqtrim
      have hsplit : splitFirst? '}' (q.toList ++ '}' :: a.unqualified)
          = some (q.toList, a.unqualified) :=
        splitFirst?_eq_some_iff.mpr ⟨rfl, hbrace⟩
      have hqempty : q.toList.isEmpty = false := by
        rw [List.isEmpty_eq_false_iff]
        exact fun hnil => hqne (String.toList_inj.mp hnil)
      rw [Option.elim_some, List.cons_append, List.cons_append,
        List.append_assoc, List.singleton_append]
      simp [splitQualifier, hsplit, hqlist, hqempty, htrim, hne]

/-- Trimming leaves a normal form alone. -/
theorem trimList_normalize (h : a.IsGrammatical) :
    trimList a.normalize.toList = a.normalize.toList := by
  have hblank := h.noBlank_unqualified
  rw [toList_normalize, trimList_eq_self_iff]
  constructor
  · intro c hc
    cases hq : a.qualifier with
    | none =>
        rw [hq, Option.elim_none, List.nil_append] at hc
        exact hblank c (List.mem_of_mem_head? hc)
    | some q =>
        rw [hq] at hc
        cases hc
        rfl
  · intro c hc
    rw [List.getLast?_append_of_ne_nil _ h.unqualified_ne_nil] at hc
    exact hblank c (List.mem_of_mem_getLast? hc)

/-- A normal form is read as the address that it was made from. -/
theorem parse_normalize_of_isGrammatical (h : a.IsGrammatical) :
    parse a.normalize = .ok a := by
  have hne : a.normalize.toList.isEmpty = false := by
    rw [toList_normalize]
    simpa using fun _ => h.unqualified_ne_nil
  have hread : readTrimmed a.normalize.toList = .ok a := by
    unfold readTrimmed
    simp only [hne, Bool.false_eq_true, ↓reduceIte, bind, Except.bind,
      splitQualifier_render h, splitAttribute_render h, splitSteps_render h,
      mapM_readStep_render h.steps]
    obtain ⟨qualifier, shape, steps, hsteps, attr⟩ := a
    cases steps with
    | nil => exact absurd rfl hsteps
    | cons first rest => rfl
  rw [parse, trimList_normalize h, hread]

end Rendering

-- ======================================================== what is read

/-- A step is named at its beginning. -/
theorem of_splitPosition {raw name : List Char} {position : Option Nat}
    (h : splitPosition raw = .ok (name, position)) :
    name <+: raw
      ∧ ∀ p, position = some p → 0 < p ∧ p < Decimal.wordBound := by
  rw [splitPosition] at h
  split at h
  case h_1 =>
      cases h
      exact ⟨List.prefix_rfl, by simp⟩
  case h_2 head hhead =>
      rw [before?_eq_some_iff] at hhead
      split at h
      case h_1 => cases h
      case h_2 before index hsplit =>
          obtain ⟨rfl, -⟩ := splitFirst?_eq_some_iff.mp hsplit
          split at h
          case h_1 => cases h
          case h_2 => cases h
          case h_3 p hzero hp =>
              cases h
              refine ⟨⟨'[' :: index ++ [']'], by simp [hhead]⟩, ?_⟩
              rintro q ⟨⟩
              have hpos : p ≠ 0 := hzero
              exact ⟨Nat.pos_of_ne_zero hpos, Decimal.lt_of_unsigned? hp⟩

/-- A step that was read is grammatical, and its name is part of the
text. -/
theorem of_readStep {shape : Shape} {text : List Char} {s : Step}
    (h : readStep shape text = .ok s) :
    s.IsGrammatical (shape != .dotted)
      ∧ ∀ c ∈ s.name.toList, c ∈ text := by
  unfold readStep at h
  dsimp only at h
  rcases ite_eq_iff.mp h with ⟨-, h⟩ | ⟨-, h⟩
  · cases h
  obtain ⟨⟨name, position⟩, hsplit, h⟩ := ok_of_bind h
  dsimp only at h
  split at h
  case isTrue hname =>
      cases h
      obtain ⟨hfront, hposition⟩ := of_splitPosition hsplit
      refine ⟨⟨by simpa using hname, hposition⟩, fun c hc => ?_⟩
      rw [String.toList_ofList] at hc
      exact mem_of_mem_trimList (hfront.subset hc)
  case isFalse => cases h

/-- A qualifier that is read is trimmed, not empty and without a brace that
closes. -/
theorem of_splitQualifier {cs rest : List Char} {qualifier : Option String}
    (h : splitQualifier cs = .ok (qualifier, rest)) :
    ∀ q, qualifier = some q → q ≠ "" ∧ trim q = q ∧ '}' ∉ q.toList := by
  unfold splitQualifier at h
  split at h
  case h_1 after =>
      split at h
      case h_1 => cases h
      case h_2 name _ hsplit =>
          obtain ⟨-, hbrace⟩ := splitFirst?_eq_some_iff.mp hsplit
          rcases ite_eq_iff.mp h with ⟨-, h⟩ | ⟨hname, h⟩
          · cases h
          rcases ite_eq_iff.mp h with ⟨-, h⟩ | ⟨-, h⟩
          · cases h
          cases h
          rintro q ⟨⟩
          refine ⟨fun hnil => hname ?_, ?_, fun hmem => hbrace ?_⟩
          · rw [← String.toList_inj, String.toList_ofList] at hnil
            simp [hnil]
          · rw [trim, String.toList_ofList, trimList_trimList]
          · rw [String.toList_ofList] at hmem
            exact mem_of_mem_trimList hmem
  case h_2 =>
      cases h
      simp

/-- An attribute that is read is a name. -/
theorem of_splitAttribute {cs rest : List Char} {attr : Option String}
    (h : splitAttribute cs = .ok (attr, rest)) :
    ∀ name, attr = some name → isName true name.toList = true := by
  rw [splitAttribute] at h
  split at h
  case h_1 =>
      cases h
      simp
  case h_2 =>
      rcases ite_eq_iff.mp h with ⟨-, h⟩ | ⟨-, h⟩
      · cases h
      rcases ite_eq_iff.mp h with ⟨hname, h⟩ | ⟨-, h⟩
      · cases h
        rintro name ⟨⟩
        simpa using hname
      · cases h

/-- Dots tell two steps or more, and a bare step has none. -/
theorem of_splitSteps {cs : List Char} {shape : Shape}
    {raws : List (List Char)} (h : splitSteps cs = .ok (shape, raws)) :
    (shape = .dotted → 2 ≤ raws.length)
      ∧ (shape = .bare → ∃ raw, raws = [raw] ∧ '.' ∉ raw) := by
  unfold splitSteps at h
  split at h
  case h_1 => cases h
  case h_2 =>
      cases h
      simp
  case h_3 =>
      rcases ite_eq_iff.mp h with ⟨-, h⟩ | ⟨-, h⟩
      · cases h
      rcases ite_eq_iff.mp h with ⟨hdot, h⟩ | ⟨hdot, h⟩
      · cases h
        exact ⟨fun _ => two_le_length_splitOn (List.contains_iff_mem.mp hdot),
          by simp⟩
      · cases h
        refine ⟨by simp, fun _ => ⟨cs, rfl, ?_⟩⟩
        simpa using hdot

/-- What the stages of the reader made of a text that was read. -/
theorem stages_of_parse {text : String} {a : Address}
    (h : parse text = .ok a) :
    ∃ unqualified path raws,
      splitQualifier (trimList text.toList) = .ok (a.qualifier, unqualified)
        ∧ splitAttribute unqualified = .ok (a.attr, path)
        ∧ splitSteps path = .ok (a.shape, raws)
        ∧ raws.mapM (readStep a.shape) = .ok a.steps := by
  have hread : readTrimmed (trimList text.toList) = .ok a := by
    rw [parse] at h
    split at h
    · cases h
      assumption
    · cases h
  unfold readTrimmed at hread
  dsimp only at hread
  rcases ite_eq_iff.mp hread with ⟨-, h⟩ | ⟨-, h⟩
  · cases h
  obtain ⟨⟨qualifier, unqualified⟩, hqualifier, h⟩ := ok_of_bind h
  obtain ⟨⟨attr, path⟩, hattr, h⟩ := ok_of_bind h
  obtain ⟨⟨shape, raws⟩, hsplit, h⟩ := ok_of_bind h
  obtain ⟨steps, hsteps, h⟩ := ok_of_bind h
  cases steps with
  | nil => cases h
  | cons first rest =>
      cases h
      exact ⟨unqualified, path, raws, hqualifier, hattr, hsplit, hsteps⟩

/-- Whatever is read as an address is grammatical. -/
theorem grammatical_of_parse {text : String} {a : Address}
    (h : parse text = .ok a) : a.IsGrammatical := by
  obtain ⟨_, _, raws, hqualifier, hattr, hsplit, hsteps⟩ := stages_of_parse h
  obtain ⟨hdotted, hbare⟩ := of_splitSteps hsplit
  have hlen := length_of_mapM hsteps
  refine ⟨of_splitQualifier hqualifier, fun s hs => ?_, fun hs => ?_,
    fun hs => ?_, of_splitAttribute hattr⟩
  · obtain ⟨raw, -, hraw⟩ := exists_of_mem_mapM hsteps hs
    exact (of_readStep hraw).1
  · rw [hlen]
    exact hdotted hs
  · obtain ⟨raw, rfl, hdot⟩ := hbare hs
    obtain ⟨first, hfirst⟩ := List.length_eq_one_iff.mp hlen
    rw [hfirst] at hsteps ⊢
    obtain ⟨_, hraw, hstep⟩ := exists_of_mem_mapM hsteps
      (List.mem_singleton_self first)
    rw [List.mem_singleton.mp hraw] at hstep
    exact ⟨first, rfl, fun hmem => hdot ((of_readStep hstep).2 _ hmem)⟩

-- ======================================================== normal forms

/-- Normal forms tell addresses apart and are read as the addresses that
they stand for: what was read once is read from its normal form again,
texts have one normal form exactly if they are read alike, and the
addresses with a normal form that can be read are the grammatical ones. -/
theorem parse_normalize :
    (∀ text a, parse text = .ok a → parse a.normalize = .ok a)
      ∧ (∀ text a other b, parse text = .ok a → parse other = .ok b →
          (a.normalize = b.normalize ↔ a = b))
      ∧ ∀ a : Address, a.IsGrammatical ↔ parse a.normalize = .ok a := by
  have hback : ∀ text a, parse text = .ok a → parse a.normalize = .ok a :=
    fun text a h => parse_normalize_of_isGrammatical (grammatical_of_parse h)
  refine ⟨hback, fun text a other b ha hb => ⟨fun h => ?_, fun h => h ▸ rfl⟩,
    fun a => ⟨parse_normalize_of_isGrammatical, grammatical_of_parse⟩⟩
  have hread := hback text a ha
  rw [h, hback other b hb] at hread
  exact (Except.ok.inj hread).symm

/-- White space, a sign and a leading zero are gone from a normal form,
which is read as before. -/
theorem parse_normalize_loose_text :
    ∃ a, parse " \x7b u \x7d/ a /*-b[ +02 ]@x " = .ok a
      ∧ a.normalize = "\x7bu\x7d/a/*-b[2]@x"
      ∧ parse a.normalize = .ok a ∧ a.IsGrammatical := by
  have hread : (parse " \x7b u \x7d/ a /*-b[ +02 ]@x ").toOption.map normalize
      = some "\x7bu\x7d/a/*-b[2]@x" := by
    decide +kernel
  obtain ⟨a, ha, hnormal⟩ := Option.map_eq_some_iff.mp hread
  have h := toOption_eq_some_iff.mp ha
  have hback := parse_normalize.1 _ a h
  exact ⟨a, h, hnormal, hback, (parse_normalize.2.2 a).mpr hback⟩

end Address

end Overlay
