/-
What trimming leaves, and what it leaves alone.

A text is left alone exactly if no white space stands at either end
(`trimList_eq_self_iff`). Trimming brings every text into this form, so
trimming twice is trimming once.

White space never stands in a word (`isBlank_of_isWord`): the two classes
are tables, and the table of white space is short enough to be looked
through.
-/
import Mathlib
import Overlay.Text.Cut

namespace Overlay.Text

-- ======================================================== the two ends

/-- A text without white space at its ends is left alone. -/
theorem trimList_eq_self_iff {cs : List Char} :
    trimList cs = cs ↔ (∀ c ∈ cs.head?, isBlank c = false)
      ∧ ∀ c ∈ cs.getLast?, isBlank c = false := by
  have hend : ∀ ds : List Char, dropEndWhile isBlank ds
      = ds.rdropWhile isBlank := fun _ => rfl
  rw [trimList, hend]
  constructor
  · intro h
    have hlen : (cs.dropWhile isBlank).length = cs.length := by
      have h1 := (List.rdropWhile_prefix isBlank
        (cs.dropWhile isBlank)).length_le
      have h2 := (List.dropWhile_suffix isBlank (l := cs)).length_le
      rw [h] at h1
      omega
    have hfirst : cs.dropWhile isBlank = cs :=
      (List.dropWhile_suffix isBlank).eq_of_length hlen
    rw [hfirst] at h
    constructor
    · intro c hc
      obtain ⟨rest, rfl⟩ := List.head?_eq_some_iff.mp hc
      simpa using List.dropWhile_eq_self_iff.mp hfirst
    · intro c hc
      obtain ⟨front, rfl⟩ := List.getLast?_eq_some_iff.mp hc
      simpa using List.rdropWhile_eq_self_iff.mp h
  · rintro ⟨hfirst, hlast⟩
    have hdrop : cs.dropWhile isBlank = cs := by
      rw [List.dropWhile_eq_self_iff]
      intro hpos
      simp [hfirst cs[0] (by simp [List.head?_eq_getElem?])]
    rw [hdrop, List.rdropWhile_eq_self_iff]
    intro hne
    simp [hlast (cs.getLast hne) (List.getLast?_eq_getLast_of_ne_nil hne)]

/-- What is trimmed is trimmed once and for all. -/
theorem trimList_trimList (cs : List Char) :
    trimList (trimList cs) = trimList cs := by
  have hfront := List.rdropWhile_prefix isBlank (cs.dropWhile isBlank)
  rw [trimList_eq_self_iff]
  constructor
  · -- the first character is still the one where the text was cut in front
    intro c hc
    obtain ⟨tail, htail⟩ := hfront
    have hmem : c ∈ (cs.dropWhile isBlank).head? := by
      rw [← htail, List.head?_append]
      simp only [Option.mem_def, Option.or_eq_some_iff]
      exact .inl hc
    have hnot := List.head?_dropWhile_not isBlank cs
    rw [Option.mem_def.mp hmem] at hnot
    simpa using hnot
  · intro c hc
    have hne : List.rdropWhile isBlank (cs.dropWhile isBlank) ≠ [] := by
      rintro hnil
      rw [trimList, show dropEndWhile isBlank (cs.dropWhile isBlank)
        = List.rdropWhile isBlank (cs.dropWhile isBlank) from rfl,
        hnil] at hc
      cases hc
    have hlast := List.rdropWhile_last_not isBlank _ hne
    have hget : (trimList cs).getLast?
        = some ((List.rdropWhile isBlank (cs.dropWhile isBlank)).getLast
          hne) :=
      List.getLast?_eq_getLast_of_ne_nil hne
    rw [hget] at hc
    cases hc
    simpa using hlast

/-- Trimming adds nothing. -/
theorem sublist_trimList (cs : List Char) : (trimList cs).Sublist cs := by
  have hfront := List.rdropWhile_prefix isBlank (cs.dropWhile isBlank)
  exact hfront.sublist.trans (List.dropWhile_suffix isBlank).sublist

theorem mem_of_mem_trimList {cs : List Char} {c : Char}
    (h : c ∈ trimList cs) : c ∈ cs :=
  (sublist_trimList cs).subset h

/-- White space in front makes no difference. -/
theorem trimList_cons {c : Char} (h : isBlank c = true) (cs : List Char) :
    trimList (c :: cs) = trimList cs := by
  rw [trimList, trimList, List.dropWhile_cons_of_pos h]

/-- White space behind makes no difference. -/
theorem trimList_concat {c : Char} (h : isBlank c = true)
    (cs : List Char) : trimList (cs ++ [c]) = trimList cs := by
  have hend : ∀ ds : List Char, dropEndWhile isBlank (ds ++ [c])
      = dropEndWhile isBlank ds := fun ds =>
    List.rdropWhile_concat_pos isBlank ds c h
  rw [trimList, trimList, List.dropWhile_append]
  split
  case isTrue hall =>
      rw [List.isEmpty_iff.mp hall, List.dropWhile_cons_of_pos h]
      rfl
  case isFalse => exact hend _

/-- Nothing is dropped from the end beyond a character that stays. -/
theorem dropEndWhile_append_cons {p : Char → Bool} {c : Char}
    (h : p c = false) (front cs : List Char) :
    dropEndWhile p (front ++ c :: cs)
      = front ++ c :: dropEndWhile p cs := by
  have hend : ∀ ds : List Char, dropEndWhile p ds = ds.rdropWhile p :=
    fun _ => rfl
  simp only [hend]
  induction cs using List.reverseRecOn with
  | nil => exact List.rdropWhile_concat_neg p front c (by simp [h])
  | append_singleton cs d ih =>
      have hconcat : front ++ c :: (cs ++ [d])
          = (front ++ c :: cs) ++ [d] := by simp
      rw [hconcat, List.rdropWhile_concat, List.rdropWhile_concat]
      split
      · exact ih
      · exact hconcat.symm

/-- White space that is gone from the end does not have to be trimmed. -/
theorem trimList_dropEndWhile (cs : List Char) :
    trimList (dropEndWhile isBlank cs) = trimList cs := by
  have hend : ∀ ds : List Char, dropEndWhile isBlank ds
      = ds.rdropWhile isBlank := fun _ => rfl
  induction cs using List.reverseRecOn with
  | nil => rfl
  | append_singleton cs c ih =>
      rw [hend, List.rdropWhile_concat]
      split
      case isTrue h => rw [← hend, ih, trimList_concat h]
      case isFalse => rfl

/-- A text without white space is left alone. -/
theorem trimList_of_forall {cs : List Char}
    (h : ∀ c ∈ cs, isBlank c = false) : trimList cs = cs :=
  trimList_eq_self_iff.mpr
    ⟨fun c hc => h c (List.mem_of_mem_head? hc),
      fun c hc => h c (List.mem_of_mem_getLast? hc)⟩

-- ============================================================= classes

/-- The code points of white space beyond ASCII. -/
def blankCodes : List Nat :=
  [0x85, 0xA0, 0x1680, 0x2000, 0x2001, 0x2002, 0x2003, 0x2004, 0x2005,
    0x2006, 0x2007, 0x2008, 0x2009, 0x200A, 0x2028, 0x2029, 0x202F, 0x205F,
    0x3000]

theorem mem_blankCodes {c : Char}
    (h : Category.covers Category.Separator.whiteSpace c = true) :
    c.toNat ∈ blankCodes := by
  simp only [Category.covers, Category.Separator.whiteSpace, List.any_cons,
    List.any_nil, Category.Run.covers, Bool.or_eq_true, Bool.and_eq_true,
    decide_eq_true_eq, Bool.or_false, Nat.mod_one, beq_self_eq_true] at h
  simp only [blankCodes, List.mem_cons, List.not_mem_nil, or_false]
  omega

/-- The code points of white space in ASCII. -/
def asciiBlankCodes : List Nat := [32, 9, 10, 11, 12, 13]

/-- White space is outside of a class if its code points are. -/
theorem isBlank_eq_false_of_class {p : Char → Bool}
    (hascii : ∀ n ∈ asciiBlankCodes, p (Char.ofNat n) = false)
    (hwide : ∀ n ∈ blankCodes, p (Char.ofNat n) = false) {c : Char}
    (h : p c = true) : isBlank c = false := by
  by_contra hblank
  rw [Bool.not_eq_false, isBlank] at hblank
  have hout : p c = false := by
    split at hblank
    case isTrue =>
        have hlow : c.toNat ∈ asciiBlankCodes := by
          simp only [Bool.or_eq_true, beq_iff_eq, Bool.and_eq_true,
            decide_eq_true_eq] at hblank
          rcases hblank with rfl | hblank
          · decide
          · simp only [asciiBlankCodes, List.mem_cons, List.not_mem_nil,
              or_false]
            omega
        simpa using hascii _ hlow
    case isFalse => simpa using hwide _ (mem_blankCodes hblank)
  rw [hout] at h
  cases h

/-- White space does not stand in words. -/
theorem isBlank_of_isWord {c : Char} (h : isWord c = true) :
    isBlank c = false :=
  isBlank_eq_false_of_class (by decide) (by decide +kernel) h

/-- Nor in numbers. -/
theorem isBlank_of_isAsciiDigit {c : Char} (h : isAsciiDigit c = true) :
    isBlank c = false :=
  isBlank_eq_false_of_class (p := isAsciiDigit) (by decide) (by decide) h

/-- Letters stand in words. -/
theorem isWord_of_isLetter {c : Char} (h : isLetter c = true) :
    isWord c = true := by
  unfold isLetter at h
  unfold isWord
  by_cases hascii : isAscii c = true
  · rw [if_pos hascii] at h ⊢
    simp [h]
  · rw [if_neg hascii] at h ⊢
    simp [isWideAlphabetic, h]

end Overlay.Text
