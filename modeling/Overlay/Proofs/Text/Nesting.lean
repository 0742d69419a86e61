/-
Cutting a text where nothing is open.

# What is open

Going through a text changes what is open at its quotes and brackets only
(`through_of_plain`). A separator has none of them, so that going through it
changes nothing: behind a cut, nothing is open, as before it. A text that
closes its quotes and has brackets in them only is `Flat`: it changes nothing
in the end, and never how many brackets are open.

# The first part

A part ends at the first separator that occurs where nothing is open; what
stands behind it is cut on its own (`splitTop_eq_cons`). All laws of the parts
follow from this one by going from part to part. A text in which no separator
occurs so is one part (`splitTop_eq_singleton`), such as one in brackets
(`splitTop_brackets`), and each part is such a text (`part_of_mem_splitTop`).

# Texts behind one another

What a text is cut into does not depend on what stands behind it, but for its
last part, which goes on there (`splitTop_append`): with whatever is open at
the end of the text, up to the first cut.
-/
import Overlay.Proofs.Text.Cutting
import Overlay.Text.Nested

namespace Overlay.Text

-- ========================================================= what is open

namespace Nest

/-- Whether a character opens or closes something. -/
def opens (c : Char) : Bool := c == '\'' || c == '"' || c == '[' || c == ']'

/-- What is open after a text. -/
def through (n : Nest) (cs : List Char) : Nest := cs.foldl step n

@[simp] theorem through_nil (n : Nest) : n.through [] = n := rfl

@[simp] theorem through_cons (n : Nest) (c : Char) (cs : List Char) :
    n.through (c :: cs) = (n.step c).through cs := rfl

@[simp] theorem through_append (n : Nest) (cs ds : List Char) :
    n.through (cs ++ ds) = (n.through cs).through ds :=
  List.foldl_append

theorem isTop_iff {n : Nest} : n.isTop = true ↔ n = {} := by
  cases n
  simp [isTop]

/-- A nest whose quote, if one is open, is one that a text can open. -/
def Proper (n : Nest) : Prop := ∀ q ∈ n.quote, opens q = true

/-- A quote is opened by a quote only, so a proper nesting stays so. -/
theorem Proper.step {n : Nest} (h : n.Proper) (c : Char) :
    (n.step c).Proper := by
  unfold Nest.step
  split
  · split
    · nofun
    · exact h
  · split
    case isTrue hquote =>
        rintro q ⟨⟩
        simp only [opens, hquote, Bool.true_or]
    · split_ifs <;> exact h

theorem Proper.through {n : Nest} (h : n.Proper) (cs : List Char) :
    (n.through cs).Proper := by
  induction cs generalizing n with
  | nil => exact h
  | cons c cs ih => exact ih (h.step c)

/-- Characters that open nothing change nothing. -/
theorem Proper.step_of_plain {n : Nest} (hn : n.Proper) {c : Char}
    (h : opens c = false) : n.step c = n := by
  unfold Nest.step
  split
  case h_1 q hq =>
      have hne : c ≠ q := by
        rintro rfl
        rw [hn c hq] at h
        cases h
      rw [if_neg (by simpa using hne)]
  case h_2 =>
      simp only [opens, Bool.or_eq_false_iff] at h
      obtain ⟨⟨hquote, hleft⟩, hright⟩ := h
      simp [hquote, hleft, hright]

/-- Text without brackets and quotes leaves a proper nesting as it is. -/
theorem Proper.through_of_plain {n : Nest} (hn : n.Proper) {cs : List Char}
    (h : ∀ c ∈ cs, opens c = false) : n.through cs = n := by
  induction cs with
  | nil => rfl
  | cons c cs ih =>
      rw [List.forall_mem_cons] at h
      rw [through_cons, hn.step_of_plain h.1, ih h.2]

theorem proper_empty : ({} : Nest).Proper := nofun

/-- Inside a quote, nothing else counts. -/
theorem through_of_quote {n : Nest} {q : Char} (hq : n.quote = some q)
    {cs : List Char} (h : q ∉ cs) : n.through cs = n := by
  induction cs with
  | nil => rfl
  | cons c cs ih =>
      rw [List.mem_cons, not_or] at h
      have hstep : n.step c = n := by
        rw [Nest.step, hq]
        exact if_neg (by simpa using fun e => h.1 e.symm)
      rw [Nest.through_cons, hstep, ih h.2]

end Nest

/-- A text that closes its quotes, and has brackets in them only. -/
structure Flat (cs : List Char) : Prop where
  through : ∀ n : Nest, n.quote = none → n.through cs = n
  brackets : ∀ n : Nest, n.quote = none → ∀ front, front <+: cs →
    (n.through front).brackets = n.brackets

namespace Flat

variable {cs ds : List Char}

/-- Flat texts behind one another are a flat text. -/
theorem append (hcs : Flat cs) (hds : Flat ds) : Flat (cs ++ ds) := by
  refine ⟨fun n hn => ?_, fun n hn front hfront => ?_⟩
  · rw [Nest.through_append, hcs.through n hn, hds.through n hn]
  · rcases List.prefix_or_prefix_of_prefix hfront
      (List.prefix_append cs ds) with h | ⟨rest, rfl⟩
    · exact hcs.brackets n hn front h
    · rw [Nest.through_append, hcs.through n hn]
      exact hds.brackets n hn rest
        ((List.prefix_append_right_inj cs).mp hfront)

/-- A text without brackets and quotes is flat. -/
theorem of_plain (h : ∀ c ∈ cs, Nest.opens c = false) : Flat cs := by
  have hthrough : ∀ n : Nest, n.quote = none → ∀ front, front <+: cs →
      n.through front = n := by
    intro n hn front hfront
    have hproper : n.Proper := by
      rw [Nest.Proper, hn]
      nofun
    exact hproper.through_of_plain fun c hc => h c (hfront.subset hc)
  exact ⟨fun n hn => hthrough n hn cs List.prefix_rfl,
    fun n hn front hfront => by rw [hthrough n hn front hfront]⟩

end Flat

-- ======================================================= the first part

/-- Whether a separator occurs in a text where nothing is open, with
something open in front of the text. -/
def OccursTop (sep : List Char) (n : Nest) (cs : List Char) : Prop :=
  ∃ front back, cs = front ++ sep ++ back ∧ (n.through front).isTop = true

/-- What is a separator: some text without quotes and brackets. -/
structure IsSeparator (sep : List Char) : Prop where
  ne_nil : sep ≠ []
  plain : ∀ c ∈ sep, Nest.opens c = false

theorem isSeparator_or : IsSeparator ['|', '|'] :=
  ⟨List.cons_ne_nil _ _, by simp [Nest.opens]⟩

theorem isSeparator_and : IsSeparator ['&', '&'] :=
  ⟨List.cons_ne_nil _ _, by simp [Nest.opens]⟩

theorem isSeparator_comma : IsSeparator [','] :=
  ⟨List.cons_ne_nil _ _, by simp [Nest.opens]⟩

section

variable {sep : List Char} {n : Nest} {c : Char} {cs q : List Char}
  {qs : List (List Char)}

/-- Where a separator does not begin, or something is open, the text goes
on. -/
theorem splitTop_cons_of_not (h : ¬ (n.isTop = true ∧ sep <+: c :: cs)) :
    splitTop sep n (c :: cs) = extendFirst c (splitTop sep (n.step c) cs) := by
  rw [splitTop]
  have hnone : (if n.isTop = true then after? sep (c :: cs) else none)
      = none := by
    split
    case isTrue htop =>
        by_contra hne
        obtain ⟨rest, hrest⟩ := Option.ne_none_iff_exists'.mp hne
        exact h ⟨htop, rest, (after?_eq_some_iff.mp hrest).symm⟩
    case isFalse => rfl
  simp only [hnone]

/-- Where nothing is open, a separator is cut out. -/
theorem splitTop_append_sep (hsep : IsSeparator sep) (rest : List Char) :
    splitTop sep {} (sep ++ rest) = [] :: splitTop sep {} rest := by
  obtain ⟨d, ds, rfl⟩ := List.exists_cons_of_ne_nil hsep.ne_nil
  have htop : ({} : Nest).isTop = true := rfl
  rw [List.cons_append, splitTop, if_pos htop, ← List.cons_append,
    after?_append]
  simp

/-- A text is gone through character by character, and separator by
separator where nothing is open. -/
theorem induct_top (hsep : IsSeparator sep) {P : Nest → List Char → Prop}
    (nil : ∀ n, P n [])
    (cut : ∀ rest, P {} rest → P {} (sep ++ rest))
    (goOn : ∀ n c cs, ¬ (n.isTop = true ∧ sep <+: c :: cs) →
      P (n.step c) cs → P n (c :: cs)) (n : Nest) (cs : List Char) :
    P n cs := by
  match cs with
  | [] => exact nil n
  | c :: cs =>
      by_cases h : n.isTop = true ∧ sep <+: c :: cs
      · obtain ⟨htop, rest, hrest⟩ := h
        have hlen := congrArg List.length hrest
        have hpos := List.length_pos_iff.mpr hsep.ne_nil
        rw [Nest.isTop_iff.mp htop, ← hrest]
        exact cut rest (induct_top hsep nil cut goOn {} rest)
      · exact goOn n c cs h (induct_top hsep nil cut goOn (n.step c) cs)
termination_by cs.length
decreasing_by
  · simp at hlen ⊢
    omega
  · simp

/-- The first part ends at the first separator that occurs where nothing is
open, if there is one, and what stands behind it is cut on its own. -/
theorem splitTop_eq_cons (hsep : IsSeparator sep) (n : Nest)
    (cs : List Char) :
    ∃ q qs, splitTop sep n cs = q :: qs ∧ ¬ OccursTop sep n q
      ∧ (qs = [] ∧ q = cs
        ∨ ∃ rest, cs = q ++ sep ++ rest ∧ n.through q = {}
          ∧ qs = splitTop sep {} rest) := by
  have hempty : ∀ n, ¬ OccursTop sep n [] := by
    rintro n ⟨front, back, h, -⟩
    simp [hsep.ne_nil] at h
  induction cs generalizing n with
  | nil => exact ⟨[], [], by rw [splitTop], hempty n, .inl ⟨rfl, rfl⟩⟩
  | cons c cs ih =>
      by_cases h : n.isTop = true ∧ sep <+: c :: cs
      · -- at a cut the first part is empty, whatever stands behind it
        obtain ⟨htop, rest, hrest⟩ := h
        obtain rfl := Nest.isTop_iff.mp htop
        rw [← hrest, splitTop_append_sep hsep]
        exact ⟨[], _, rfl, hempty _, .inr ⟨rest, rfl, rfl, rfl⟩⟩
      · obtain ⟨q, qs, hsplit, hnot, hrest⟩ := ih (n.step c)
        have hprefix : q <+: cs := by
          rcases hrest with ⟨-, rfl⟩ | ⟨rest, rfl, -⟩
          · exact List.prefix_rfl
          · exact ⟨sep ++ rest, by simp⟩
        refine ⟨c :: q, qs, ?_, ?_, ?_⟩
        · rw [splitTop_cons_of_not h, hsplit, extendFirst]
        · rintro ⟨front, back, heq, htop⟩
          cases front with
          | nil =>
              refine h ⟨htop, List.IsPrefix.trans ⟨back, heq.symm⟩ ?_⟩
              exact List.cons_prefix_cons.mpr ⟨rfl, hprefix⟩
          | cons f front =>
              obtain ⟨rfl, htail⟩ := List.cons.inj heq
              exact hnot ⟨front, back, htail, htop⟩
        · rcases hrest with ⟨hqs, rfl⟩ | ⟨rest, rfl, htop, hqs⟩
          · exact .inl ⟨hqs, rfl⟩
          · exact .inr ⟨rest, rfl, htop, hqs⟩

theorem splitTop_ne_nil (hsep : IsSeparator sep) (n : Nest)
    (cs : List Char) : splitTop sep n cs ≠ [] := by
  obtain ⟨q, qs, h, -⟩ := splitTop_eq_cons hsep n cs
  simp [h]

/-- A text is one part exactly if no separator occurs in it where nothing is
open. -/
theorem splitTop_eq_singleton (hsep : IsSeparator sep) :
    splitTop sep n cs = [cs] ↔ ¬ OccursTop sep n cs := by
  obtain ⟨q, qs, hsplit, hnot, ⟨rfl, rfl⟩ | ⟨rest, rfl, htop, hqs⟩⟩ :=
    splitTop_eq_cons hsep n cs
  · exact iff_of_true hsplit hnot
  · refine iff_of_false ?_ ?_
    · intro h
      obtain ⟨heq, -⟩ := List.cons.inj (hsplit.symm.trans h)
      have := congrArg List.length heq
      simp [hsep.ne_nil] at this
    · exact not_not_intro
        ⟨q, rest, rfl, Nest.isTop_iff.mpr htop⟩

/-- A text without one of the characters of a separator is one part. -/
theorem splitTop_of_not_mem (hsep : IsSeparator sep) {d : Char}
    (hd : d ∈ sep) (h : d ∉ cs) : splitTop sep n cs = [cs] := by
  rw [splitTop_eq_singleton hsep]
  rintro ⟨front, back, rfl, -⟩
  exact h (by simp [hd])

/-- Where something is open, a text without quotes and brackets is one part. -/
theorem splitTop_of_open (hsep : IsSeparator sep) (hn : n.Proper)
    (hopen : n ≠ {}) (hcs : ∀ c ∈ cs, Nest.opens c = false) :
    splitTop sep n cs = [cs] := by
  rw [splitTop_eq_singleton hsep]
  rintro ⟨front, back, rfl, htop⟩
  rw [hn.through_of_plain fun c hc => hcs c (by simp [hc]),
    Nest.isTop_iff] at htop
  exact hopen htop

/-- What stands in brackets is never cut. -/
theorem splitTop_brackets (hsep : IsSeparator sep) (hcs : Flat cs) :
    splitTop sep {} ('[' :: (cs ++ [']'])) = ['[' :: (cs ++ [']'])] := by
  rw [splitTop_eq_singleton hsep]
  rintro ⟨front, back, htext, htop⟩
  cases front with
  | nil =>
      obtain ⟨c, rest, rfl⟩ := List.exists_cons_of_ne_nil hsep.ne_nil
      obtain ⟨rfl, -⟩ := List.cons.inj htext
      exact absurd (hsep.plain '[' (List.mem_cons_self ..)) (by decide)
  | cons c front =>
      obtain ⟨rfl, htail⟩ := List.cons.inj htext
      have hfront : front <+: cs := by
        have hprefix : front <+: cs ++ [']'] := ⟨sep ++ back, by simp [htail]⟩
        refine (List.prefix_concat_iff.mp hprefix).resolve_left ?_
        rintro rfl
        simp [hsep.ne_nil] at htail
      have hone := hcs.brackets ⟨none, 1⟩ rfl front hfront
      rw [Nest.isTop_iff, Nest.through_cons] at htop
      have hstep : ({} : Nest).step '[' = ⟨none, 1⟩ := rfl
      rw [← hstep, htop] at hone
      cases hone

/-- What occurs in a text occurs where the text stands in another one. -/
theorem occursTop_infix (front back : List Char)
    (h : OccursTop sep (n.through front) cs) :
    OccursTop sep n (front ++ cs ++ back) := by
  obtain ⟨before, behind, rfl, htop⟩ := h
  exact ⟨front ++ before, behind ++ back, by simp,
    by rw [Nest.through_append]; exact htop⟩

/-- A part of a text in which nothing is open at first stands at a place
where nothing is open, and no separator occurs where nothing is open in it.
Behind the last part there is nothing. -/
theorem part_of_mem_splitTop (hsep : IsSeparator sep) {before behind}
    {part : List Char} (h : splitTop sep {} cs = before ++ part :: behind) :
    ¬ OccursTop sep {} part ∧ ∃ front back, cs = front ++ part ++ back
      ∧ ({} : Nest).through front = {} ∧ (behind = [] → back = []) := by
  induction before generalizing cs with
  | nil =>
      obtain ⟨q, qs, hsplit, hnot, hrest⟩ := splitTop_eq_cons hsep {} cs
      obtain ⟨rfl, rfl⟩ := List.cons.inj (hsplit.symm.trans h)
      refine ⟨hnot, [], ?_⟩
      rcases hrest with ⟨-, rfl⟩ | ⟨rest, rfl, -, hqs⟩
      · exact ⟨[], by simp⟩
      · exact ⟨sep ++ rest, by simp, rfl, fun hnil =>
          absurd (hqs.symm.trans hnil) (splitTop_ne_nil hsep {} rest)⟩
  | cons b before ih =>
      obtain ⟨q, qs, hsplit, -, hrest⟩ := splitTop_eq_cons hsep {} cs
      obtain ⟨rfl, rfl⟩ := List.cons.inj (hsplit.symm.trans h)
      rcases hrest with ⟨hnil, -⟩ | ⟨rest, rfl, htop, hqs⟩
      · simp at hnil
      · obtain ⟨hnot, front, back, rfl, hfront, hback⟩ := ih hqs.symm
        refine ⟨hnot, q ++ sep ++ front, back, by simp, ?_, hback⟩
        rw [Nest.through_append, Nest.through_append, htop,
          Nest.proper_empty.through_of_plain hsep.plain, hfront]

/-- A part holds nothing that the text did not hold, in the same order. -/
theorem sublist_of_mem_splitTop (hsep : IsSeparator sep) {part : List Char}
    (h : part ∈ splitTop sep {} cs) : part.Sublist cs := by
  obtain ⟨before, behind, hparts⟩ := List.append_of_mem h
  obtain ⟨-, front, back, rfl, -⟩ := part_of_mem_splitTop hsep hparts
  exact (List.infix_append front part back).sublist

-- =========================================== texts behind one another

/-- Puts a text behind the last part. -/
def extendLast (tail : List Char) : List (List Char) → List (List Char)
  | [] => [tail]
  | [part] => [part ++ tail]
  | part :: next :: parts => part :: extendLast tail (next :: parts)

theorem extendLast_concat (tail : List Char) (parts : List (List Char))
    (part : List Char) :
    extendLast tail (parts ++ [part]) = parts ++ [part ++ tail] := by
  induction parts with
  | nil => rfl
  | cons p parts ih =>
      cases parts with
      | nil => rfl
      | cons => exact congrArg (p :: ·) ih

/-- Unless it is the only one, the first part is not the one that is
extended. -/
theorem extendLast_cons {part : List Char} (tail : List Char)
    {parts : List (List Char)} (h : parts ≠ []) :
    extendLast tail (part :: parts) = part :: extendLast tail parts := by
  obtain ⟨next, rest, rfl⟩ := List.exists_cons_of_ne_nil h
  rfl

/-- A separator that begins in a text ends there, unless the next text
begins like a tail of it. -/
theorem prefix_of_prefix_append {rest : List Char} (hne : cs ≠ [])
    (hfirst : ∀ d ∈ rest.head?, d ∉ sep.tail) (h : sep <+: cs ++ rest) :
    sep <+: cs := by
  rcases List.prefix_or_prefix_of_prefix h (List.prefix_append cs rest) with
    hsep | ⟨tail, rfl⟩
  · exact hsep
  · rw [List.prefix_append_right_inj] at h
    obtain ⟨back, rfl⟩ := h
    cases tail with
    | nil => simp
    | cons d tail =>
        refine absurd ?_ (hfirst d (by simp))
        simp [List.tail_append_of_ne_nil hne]

/-- A text is cut in the same way whatever stands behind it; its last part
goes on there. -/
theorem splitTop_append (hsep : IsSeparator sep) {rest q : List Char}
    {qs : List (List Char)} (hfirst : ∀ d ∈ rest.head?, d ∉ sep.tail)
    (h : splitTop sep (n.through cs) rest = q :: qs) :
    splitTop sep n (cs ++ rest) = extendLast q (splitTop sep n cs) ++ qs := by
  refine induct_top hsep (P := fun n cs =>
    splitTop sep (n.through cs) rest = q :: qs →
      splitTop sep n (cs ++ rest) = extendLast q (splitTop sep n cs) ++ qs)
    (fun n h => ?_) (fun tail ih h => ?_) (fun n c cs hnot ih h => ?_) n cs h
  · rw [splitTop]
    exact h
  · rw [Nest.through_append,
      Nest.proper_empty.through_of_plain hsep.plain] at h
    rw [List.append_assoc, splitTop_append_sep hsep, ih h,
      splitTop_append_sep hsep,
      extendLast_cons q (splitTop_ne_nil hsep {} tail), List.cons_append]
  · -- a separator that begins here does not reach into the next text
    have hgoes : ¬ (n.isTop = true ∧ sep <+: c :: cs ++ rest) :=
      fun h => hnot ⟨h.1, prefix_of_prefix_append (by simp) hfirst h.2⟩
    rw [List.cons_append] at hgoes ⊢
    rw [splitTop_cons_of_not hgoes, splitTop_cons_of_not hnot, ih h]
    obtain ⟨p, ps, hsplit, -⟩ := splitTop_eq_cons hsep (n.step c) cs
    rw [hsplit]
    cases ps <;> rfl

/-- Two texts that are one part each are one part together. -/
theorem splitTop_append_singleton (hsep : IsSeparator sep)
    (hcs : ¬ OccursTop sep n cs) {rest : List Char}
    (hfirst : ∀ d ∈ rest.head?, d ∉ sep.tail)
    (hrest : splitTop sep (n.through cs) rest = [rest]) :
    splitTop sep n (cs ++ rest) = [cs ++ rest] := by
  rw [splitTop_append hsep hfirst hrest, (splitTop_eq_singleton hsep).mpr hcs]
  rfl

/-- In front of a text that is cut, other characters belong to its first
part. -/
theorem splitTop_plain_append (hn : n.Proper) {front : List Char}
    (hplain : ∀ c ∈ front, Nest.opens c = false ∧ c ∉ sep)
    (hsep : IsSeparator sep) (h : splitTop sep n cs = q :: qs) :
    splitTop sep n (front ++ cs) = (front ++ q) :: qs := by
  induction front with
  | nil => exact h
  | cons c front ih =>
      obtain ⟨⟨hopens, hc⟩, hfront⟩ := List.forall_mem_cons.mp hplain
      have hnot : ¬ (n.isTop = true ∧ sep <+: c :: (front ++ cs)) := by
        rintro ⟨-, hbegins⟩
        obtain ⟨d, ds, rfl⟩ := List.exists_cons_of_ne_nil hsep.ne_nil
        obtain ⟨rfl, -⟩ := List.cons_prefix_cons.mp hbegins
        exact hc (List.mem_cons_self ..)
      rw [List.cons_append, splitTop_cons_of_not hnot,
        hn.step_of_plain hopens, ih hfront]
      rfl

end

end Overlay.Text
