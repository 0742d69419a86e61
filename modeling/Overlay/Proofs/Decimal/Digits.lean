/-
Numbers as they are printed are read again.

# Whole numbers

Printing is the library's own (`Nat.toDigits`), reading is not: it checks
that all characters are digits, and bounds the value. Both agree on what
a digit is worth.

# Decimals

A decimal is the number nearest to its value. The reader leaves the
division out where the digits alone tell that the result is zero or
infinite; what it answers then is what the division would have come to
(`scale10_eq_nearest`).
-/
import Mathlib
import Overlay.Decimal.Read

namespace Overlay.Decimal

open Text

/-- The digits of a printed number are ASCII digits. -/
theorem isAsciiDigit_of_mem_toDigits {n : Nat} {c : Char}
    (h : c ∈ Nat.toDigits 10 n) : isAsciiDigit c = true := by
  have := Nat.isDigit_of_mem_toDigits (by omega) (by omega) h
  simpa [isAsciiDigit, Char.isDigit, Char.le_def] using this

/-- The value of digits is the library's. -/
theorem ofDigits_eq_ofDigitChars {cs : List Char}
    (h : ∀ c ∈ cs, isAsciiDigit c = true) :
    ofDigits 10 cs = Nat.ofDigitChars 10 cs 0 := by
  have hfold : ∀ start : Nat,
      cs.foldl (fun n c => n * 10 + digitValue c) start
        = Nat.ofDigitChars 10 cs start := by
    induction cs with
    | nil => intro start; rfl
    | cons c rest ih =>
        intro start
        have hc : digitValue c = c.toNat - '0'.toNat := by
          rw [digitValue, if_pos (h c (List.mem_cons_self ..))]
          rfl
        rw [List.foldl_cons, Nat.ofDigitChars_cons, hc,
          Nat.mul_comm start 10]
        exact ih (fun d hd => h d (List.mem_cons_of_mem c hd)) _
  exact hfold 0

theorem natural?_toDigits (n : Nat) :
    natural? (Nat.toDigits 10 n) = some n := by
  have hdigits : ∀ c ∈ Nat.toDigits 10 n, isAsciiDigit c = true :=
    fun _ => isAsciiDigit_of_mem_toDigits
  rw [natural?, ofDigits_eq_ofDigitChars hdigits,
    Nat.ofDigitChars_ten_toDigits, if_neg]
  rw [Bool.or_eq_true, not_or]
  exact ⟨by simp, by simpa using hdigits⟩

/-- Digits are a number below the power of ten with as many zeros. -/
theorem ofDigits_lt {cs : List Char} (h : ∀ c ∈ cs, isAsciiDigit c = true) :
    ofDigits 10 cs < 10 ^ cs.length := by
  induction cs using List.reverseRecOn with
  | nil => decide
  | append_singleton cs c ih =>
      have hfront := ih fun d hd => h d (List.mem_append_left _ hd)
      have hc : isAsciiDigit c = true := h c (by simp)
      have hdigit : digitValue c < 10 := by
        have hcode : c.toNat ≤ 57 := by
          have := hc
          simp only [isAsciiDigit, Bool.and_eq_true, decide_eq_true_eq,
            Char.le_def, UInt32.le_iff_toNat_le] at this
          exact this.2
        rw [digitValue, if_pos hc]
        omega
      have hvalue : ofDigits 10 (cs ++ [c])
          = ofDigits 10 cs * 10 + digitValue c := by
        simp [ofDigits]
      rw [hvalue, List.length_append, List.length_singleton, pow_succ]
      omega

/-- A number is read as it is printed, if it is below the bound. -/
theorem unsigned?_toDigits_eq (bound n : Nat) :
    unsigned? bound (Nat.toDigits 10 n) = (some n).filter (· < bound) := by
  have hsign : ∀ rest, Nat.toDigits 10 n ≠ '+' :: rest := by
    intro rest hrest
    have hmem : '+' ∈ Nat.toDigits 10 n := by simp [hrest]
    cases isAsciiDigit_of_mem_toDigits hmem
  unfold unsigned?
  split
  case h_1 rest hrest => exact absurd hrest (hsign rest)
  case h_2 => simp only [natural?_toDigits]

theorem unsigned?_toDigits {bound n : Nat} (h : n < bound) :
    unsigned? bound (Nat.toDigits 10 n) = some n := by
  simp [unsigned?_toDigits_eq, h]

/-- What is read is below the bound. -/
theorem lt_of_unsigned? {bound n : Nat} {cs : List Char}
    (h : unsigned? bound cs = some n) : n < bound := by
  unfold unsigned? at h
  rw [Option.filter_eq_some_iff] at h
  simpa using h.2

/-- A text of digits is read as a number if these are ASCII digits and the
number is below the bound. -/
theorem unsigned?_eq {bound : Nat} {cs : List Char} (hne : cs ≠ [])
    (hdigits : ∀ c ∈ cs, isDigit c = true) :
    unsigned? bound cs
      = if cs.all isAsciiDigit = true ∧ ofDigits 10 cs < bound
        then some (ofDigits 10 cs) else none := by
  have hsign : ∀ rest, cs ≠ '+' :: rest := fun rest heq =>
    absurd (hdigits '+' (by simp [heq])) (by decide)
  have hempty : cs.isEmpty = false := by simpa using hne
  have hread : unsigned? bound cs = (natural? cs).filter (· < bound) := by
    unfold unsigned?
    split
    case h_1 rest => exact absurd rfl (hsign rest)
    case h_2 => rfl
  rw [hread, natural?, hempty, Bool.false_or]
  by_cases hall : cs.all isAsciiDigit = true
  · by_cases hlt : ofDigits 10 cs < bound
    · simp [hall, hlt]
    · simp [hall, hlt, Nat.not_lt.mp hlt]
  · simp [hall]

-- =========================================================== decimals

theorem twoTo_eq (e : Nat) : twoTo e = 2 ^ e := rfl
theorem tenTo_eq (e : Nat) : tenTo e = 10 ^ e := rfl

variable {num den : Nat}

/-- A fraction that is less than half the least number above zero is nearest
to zero. -/
theorem nearestBits_of_tiny (h : 2 * (num * twoTo 1074) < den) :
    nearestBits num den = 0 := by
  by_cases hnum : num = 0
  · simp [nearestBits, hnum]
  obtain ⟨units, hunits⟩ : ∃ units, units = num * twoTo 1074 := ⟨_, rfl⟩
  rw [← hunits] at h
  have hlog : num.log2 + 1074 ≤ den.log2 := by
    have hle : 2 ^ num.log2 * twoTo 1074 ≤ units := by
      rw [hunits]
      exact Nat.mul_le_mul_right _ (Nat.log2_self_le hnum)
    rw [Nat.le_log2 (by omega), pow_add, ← twoTo_eq 1074]
    exact hle.trans (by omega)
  have hround : roundDiv units den = 0 := by
    rw [roundDiv, Nat.div_eq_of_lt (by omega), Nat.mod_eq_of_lt (by omega),
      if_neg]
    simp
    omega
  have hexp : ∀ e : Int, e ≤ (num.log2 : Int) - den.log2 - 52 →
      max e (-1074) = -1074 := fun e he => by omega
  unfold nearestBits
  rw [if_neg (by simpa using hnum)]
  dsimp only
  rw [hexp _ (by split <;> omega)]
  simp [← hunits, hround]

/-- A fraction that is greater than all numbers is infinite. -/
theorem nearestBits_of_huge (hden : 0 < den) (h : den * 2 ^ 1030 ≤ num) :
    nearestBits num den = infinityBits := by
  have hpos : 0 < den * 2 ^ 1030 := by positivity
  have hlog : den.log2 + 1030 ≤ num.log2 := by
    rw [Nat.le_log2 (by omega), pow_add]
    exact (Nat.mul_le_mul_right _ (Nat.log2_self_le (by omega))).trans h
  have hexp : ∀ e : Int, (num.log2 : Int) - den.log2 - 53 ≤ e →
      2047 ≤ (max e (-1074) + 1074).toNat := fun e he => by omega
  unfold nearestBits
  rw [if_neg (by simp; omega)]
  dsimp only
  refine Nat.min_eq_right (Nat.le_add_right_of_le ?_)
  exact Nat.mul_le_mul_right _ (hexp _ (by split <;> omega))

/-- What is too great for a number is rounded to infinity. -/
theorem nearest_of_huge (negative : Bool) (hden : 0 < den)
    (h : den * 2 ^ 1030 ≤ num) :
    Binary.nearest negative num den = .infinite negative := by
  rw [Binary.nearest, nearestBits_of_huge hden h]
  cases negative <;> rfl

/-- The number for a decimal is the one nearest to its value, also where the
division is left out. -/
theorem scale10_eq_nearest (negative : Bool) (n k : Nat) :
    scale10 negative n (-(k : Int)) = .nearest negative n (10 ^ k) := by
  by_cases hn : n = 0
  · simp [scale10, Binary.nearest, nearestBits, hn]
  have hlength : ∀ m, 0 < m → ((Nat.toDigits 10 n).length ≤ m ↔ n < 10 ^ m) :=
    fun m => Nat.length_toDigits_le_iff (by decide)
  have hpos : 0 < (Nat.toDigits 10 n).length := Nat.length_toDigits_pos
  unfold scale10
  dsimp only
  generalize (Nat.toDigits 10 n).length = length at hlength hpos ⊢
  split
  case isTrue hsmall =>
      simp [hn] at hsmall
      have htiny : 2 * (n * twoTo 1074) < 10 ^ k :=
        calc 2 * (n * twoTo 1074)
            = n * (2 * twoTo 1074) := Nat.mul_left_comm ..
          _ < 10 ^ length * 10 ^ 331 :=
              Nat.mul_lt_mul'' ((hlength _ hpos).mp le_rfl) (by decide +kernel)
          _ = 10 ^ (length + 331) := (pow_add ..).symm
          _ ≤ 10 ^ k := Nat.pow_le_pow_right (by decide) (by omega)
      simp only [Binary.nearest, nearestBits_of_tiny htiny]
      rfl
  case isFalse hnot =>
      split
      case isTrue hlarge =>
          have hhuge : 10 ^ k * 2 ^ 1030 ≤ n :=
            calc 10 ^ k * 2 ^ 1030 ≤ 10 ^ k * 10 ^ 320 :=
                  Nat.mul_le_mul_left _ (by decide +kernel)
              _ = 10 ^ (k + 320) := (pow_add ..).symm
              _ ≤ n := by
                  have := (hlength (k + 320) (by omega)).not
                  omega
          exact (nearest_of_huge negative (by positivity) hhuge).symm
      case isFalse =>
          split
          case isTrue hk =>
              obtain rfl : k = 0 := by omega
              simp [tenTo_eq]
          case isFalse =>
              simp [tenTo_eq]

end Overlay.Decimal
