/-
The parts of a date and of a time, as they are written and read.

Every number is written with a fixed count of digits (`padded`), which the
reader takes off in one piece, whether it wants all digits
(`fixed?_padded`) or at most so many (`number?_padded`). From them come
dates (`dateIn?_render`), times of day (`clockIn?_render`), fractions
(`nanos?_fractionText`) and offsets (`offset?_offsetText`). A time of day
is written in two pieces, hours with minutes and seconds (`minutesText`,
`secondsText`), since what stands behind the minutes tells the forms apart.
-/
import Overlay.Proofs.Calendar.Moving
import Overlay.Proofs.Decimal.Digits
import Overlay.Proofs.Text.Cutting
import Overlay.Proofs.Text.Trimming

namespace Overlay.Calendar

open Text Decimal

-- ============================================================== digits

section Padded

variable {w n : Nat} {rest : List Char}

theorem toList_padded (w n : Nat) : (padded w n).toList
    = List.replicate (w - (Nat.toDigits 10 n).length) '0'
      ++ Nat.toDigits 10 n := by
  rw [padded, String.toList_ofList]

/-- What fills a number up are digits too. -/
theorem isAsciiDigit_of_mem_padded {c : Char}
    (h : c ∈ (padded w n).toList) : isAsciiDigit c = true := by
  rw [toList_padded, List.mem_append] at h
  rcases h with h | h
  · rw [List.eq_of_mem_replicate h]
    rfl
  · exact isAsciiDigit_of_mem_toDigits h

/-- A number that fits takes all its places and no more. -/
theorem length_padded (hw : 0 < w) (h : n < 10 ^ w) :
    (padded w n).toList.length = w := by
  have := (Nat.length_toDigits_le_iff (by omega) hw).mpr h
  rw [toList_padded, List.length_append, List.length_replicate]
  omega

theorem padded_ne_nil : (padded w n).toList ≠ [] := by
  rw [toList_padded]
  exact List.append_ne_nil_of_right_ne_nil _ Nat.toDigits_ne_nil

/-- And what fills it up does not change its value. -/
theorem ofDigits_padded (w n : Nat) :
    ofDigits 10 (padded w n).toList = n := by
  rw [ofDigits_eq_ofDigitChars fun _ => isAsciiDigit_of_mem_padded,
    toList_padded, Nat.ofDigitChars_append]
  have hzeros : ∀ k, Nat.ofDigitChars 10 (List.replicate k '0') 0 = 0 := by
    intro k
    induction k with
    | zero => rfl
    | succ k ih => exact ih
  rw [hzeros, Nat.ofDigitChars_ten_toDigits]

/-- Two places are written in a way of their own, which comes to the same below
a hundred. -/
theorem twoDigits_eq (h : n < 100) : twoDigits n = padded 2 n := by
  have hone := Nat.length_toDigits_le_iff (b := 10) (n := n) (k := 1)
    (by omega) (by omega)
  have htwo := Nat.length_toDigits_le_iff (b := 10) (n := n) (k := 2)
    (by omega) (by omega)
  have hpos := Nat.length_toDigits_pos (b := 10) (n := n)
  rw [← String.toList_inj, toList_padded, twoDigits]
  by_cases hn : n < 10
  · rw [show (Nat.toDigits 10 n).length = 1 by omega]
    simp [hn]
  · rw [show (Nat.toDigits 10 n).length = 2 by omega]
    simp [hn]

/-- A reader that wants so many digits takes just the number. -/
theorem fixed?_padded (hw : 0 < w) (h : n < 10 ^ w) (rest : List Char) :
    fixed? w ((padded w n).toList ++ rest) = some (n, rest) := by
  have hlen := length_padded hw h
  have htake : ((padded w n).toList ++ rest).take w = (padded w n).toList :=
    List.take_left' hlen
  have hall : (padded w n).toList.all isAsciiDigit = true :=
    List.all_eq_true.mpr fun _ => isAsciiDigit_of_mem_padded
  simp only [fixed?, htake, hlen, hall, ofDigits_padded,
    List.drop_left' hlen, beq_self_eq_true, Bool.and_self, ↓reduceIte]

theorem fixed?_padded_nil (hw : 0 < w) (h : n < 10 ^ w) :
    fixed? w (padded w n).toList = some (n, []) := by
  simpa using fixed?_padded hw h []

/-- A number ends where its count of digits or its digits end. -/
theorem number?_front {count : Nat} {ds : List Char} (hne : ds ≠ [])
    (hds : ∀ c ∈ ds, isAsciiDigit c = true) (hlen : ds.length ≤ count)
    (hrest : ds.length = count ∨ ∀ c ∈ rest.head?, isAsciiDigit c = false) :
    number? count (ds ++ rest) = some (ofDigits 10 ds, rest) := by
  have hdrop : (ds ++ rest).dropWhile isBlank = ds ++ rest := by
    refine dropWhile_of_head fun c hc => ?_
    rw [List.head?_append_of_ne_nil _ hne] at hc
    exact isBlank_of_isAsciiDigit (hds c (List.mem_of_mem_head? hc))
  have hrun : ((ds ++ rest).take count).takeWhile isAsciiDigit = ds := by
    rw [List.take_append, List.take_of_length_le hlen]
    refine takeWhile_front hds fun c hc => ?_
    rcases hrest with hfull | hrest
    · simp [hfull] at hc
    · rw [List.head?_take] at hc
      split at hc
      · cases hc
      · exact hrest c hc
  have hempty : ds.isEmpty = false := by
    simpa using hne
  simp only [number?, hdrop, hrun, hempty, List.drop_left,
    Bool.false_eq_true, ↓reduceIte]

/-- So does one that takes at most so many, as the number has them all. -/
theorem number?_padded (hw : 0 < w) (h : n < 10 ^ w) (rest : List Char) :
    number? w ((padded w n).toList ++ rest) = some (n, rest) := by
  have hlen := length_padded hw h
  rw [number?_front padded_ne_nil (fun _ => isAsciiDigit_of_mem_padded)
    hlen.le (.inl hlen), ofDigits_padded]

theorem number?_padded_nil (hw : 0 < w) (h : n < 10 ^ w) :
    number? w (padded w n).toList = some (n, []) := by
  simpa using number?_padded hw h []

end Padded

-- ============================================================== pieces

@[simp]
theorem after_cons (c : Char) (rest : List Char) :
    after c (c :: rest) = some rest :=
  after?_append [c] rest

@[simp]
theorem after_nil (c : Char) : after c [] = none :=
  rfl

theorem after_ne {c d : Char} (h : d ≠ c) (rest : List Char) :
    after c (d :: rest) = none :=
  after?_cons_ne h [] rest

/-- What begins with a number begins with a digit. -/
theorem exists_head?_padded (w n : Nat) (rest : List Char) :
    ∃ c ∈ ((padded w n).toList ++ rest).head?, isAsciiDigit c = true := by
  obtain ⟨c, cs, hcs⟩ := List.exists_cons_of_ne_nil (padded_ne_nil (w := w)
    (n := n))
  exact ⟨c, by simp [hcs], isAsciiDigit_of_mem_padded (by
    rw [hcs]
    exact List.mem_cons_self ..)⟩

/-- Where another character is among the first ones, there is no number
with all its digits. -/
theorem fixed?_eq_none {w : Nat} {cs : List Char} {c : Char}
    (hc : c ∈ cs.take w) (h : isAsciiDigit c = false) :
    fixed? w cs = none := by
  have hall : (cs.take w).all isAsciiDigit = false :=
    List.all_eq_false.mpr ⟨c, hc, by simp [h]⟩
  rw [fixed?]
  simp [hall]

/-- No number begins with another character. -/
theorem number?_eq_none {w : Nat} {c : Char} (hblank : isBlank c = false)
    (h : isAsciiDigit c = false) (rest : List Char) :
    number? w (c :: rest) = none := by
  have hempty : (((c :: rest).take w).takeWhile isAsciiDigit).isEmpty
      = true := by
    cases w <;> simp [h]
  rw [number?, List.dropWhile_cons_of_neg (by simp [hblank])]
  simp [hempty]

-- =============================================================== dates

/-- Whether a year is written with four digits. -/
def HasFourDigits (year : Int) : Prop := 0 ≤ year ∧ year ≤ 9999

/-- A year of four digits has no sign. -/
theorem yearText_of_hasFourDigits {year : Int} (h : HasFourDigits year) :
    yearText year = padded 4 year.toNat := by
  rw [yearText, if_pos (by simpa [HasFourDigits] using h)]
  rfl

/-- Every other year is written with a sign, a positive one too. -/
theorem toList_yearText_of_not {year : Int} (h : ¬ HasFourDigits year) :
    (yearText year).toList
      = (if year < 0 then '-' else '+') :: (padded 4 year.natAbs).toList := by
  rw [yearText, if_neg (by simpa [HasFourDigits] using h)]
  split <;> simp <;> rfl

/-- Without a sign a year has four digits at most. -/
theorem year?_of_digit {cs : List Char}
    (h : ∃ c ∈ cs.head?, isAsciiDigit c = true) :
    year? cs = (number? 4 cs).map fun (n, rest) => ((n : Int), rest) := by
  obtain ⟨c, hc, hdigit⟩ := h
  obtain ⟨rest, rfl⟩ := List.head?_eq_some_iff.mp hc
  rw [year?, List.dropWhile_cons_of_neg
    (by simp [isBlank_of_isAsciiDigit hdigit])]
  split
  case h_1 heq =>
    cases heq
    cases hdigit
  case h_2 heq =>
    cases heq
    cases hdigit
  case h_3 => rfl

/-- So a year of four digits is read up to its last one, whatever comes
behind. -/
theorem year?_four {n : Nat} (h : n < 10000) (rest : List Char) :
    year? ((padded 4 n).toList ++ rest) = some ((n : Int), rest) := by
  rw [year?_of_digit (exists_head?_padded ..), number?_padded (by omega) h,
    Option.map_some]

/-- With a sign the digits go on as far as they can, so nothing but a digit may
not come behind. -/
theorem year?_signed (negative : Bool) (n : Nat) {rest : List Char}
    (hrest : ∀ c ∈ rest.head?, isAsciiDigit c = false) :
    year? ((if negative then '-' else '+')
        :: ((padded 4 n).toList ++ rest))
      = some (if negative then -(n : Int) else n, rest) := by
  have hall : ∀ c ∈ (padded 4 n).toList, isAsciiDigit c = true :=
    fun _ => isAsciiDigit_of_mem_padded
  have hempty : (padded 4 n).toList.isEmpty = false := by
    simpa using padded_ne_nil
  cases negative <;>
    simp only [year?, Bool.false_eq_true, ↓reduceIte,
      List.dropWhile_cons_of_neg (p := isBlank) (show ¬ isBlank '-' = true
        by decide),
      List.dropWhile_cons_of_neg (p := isBlank) (show ¬ isBlank '+' = true
        by decide),
      takeWhile_front hall hrest, hempty, ofDigits_padded, List.drop_left]

/-- Every year is read again in front of what is no digit. -/
theorem year?_yearText (year : Int) {rest : List Char}
    (hrest : ∀ c ∈ rest.head?, isAsciiDigit c = false) :
    year? ((yearText year).toList ++ rest) = some (year, rest) := by
  by_cases h : HasFourDigits year
  · obtain ⟨hlow, hhigh⟩ := h
    rw [yearText_of_hasFourDigits ⟨hlow, hhigh⟩, year?_four (by omega),
      Int.toNat_of_nonneg hlow]
  · have hread := year?_signed (decide (year < 0)) year.natAbs hrest
    rw [toList_yearText_of_not h, List.cons_append]
    simp only [decide_eq_true_eq] at hread
    have hvalue : (if year < 0 then -(year.natAbs : Int) else year.natAbs)
        = year := by
      unfold HasFourDigits at h
      split <;> omega
    rw [hread, hvalue]

/-- The month and the day of a date fit into two places. -/
theorem Date.bounds {d : Date} (h : d.isValid = true) :
    d.month < 100 ∧ d.day < 100 := by
  simp only [Date.isValid, Bool.and_eq_true, decide_eq_true_eq] at h
  obtain ⟨⟨⟨-, hmonth⟩, -⟩, hday⟩ := h
  have hlong : daysInMonth d.year d.month ≤ 31 := by
    unfold daysInMonth
    split
    · split <;> omega
    all_goals omega
  omega

/-- A date in its three parts. -/
theorem Date.toList_render {d : Date} (h : d.isValid = true) :
    d.render.toList = (yearText d.year).toList ++ '-' ::
      ((padded 2 d.month).toList ++ '-' :: (padded 2 d.day).toList) := by
  obtain ⟨hmonth, hday⟩ := d.bounds h
  rw [Date.render, twoDigits_eq hmonth, twoDigits_eq hday]
  simp [String.toList_append]

/-- A date is read as it is written, if its year can be told. -/
theorem dateIn?_render {d : Date} (h : d.isValid = true)
    (rest : List Char) : dateIn? (d.render.toList ++ rest)
      = if yearInRange d.year then some (d, rest) else none := by
  obtain ⟨hmonth, hday⟩ := d.bounds h
  rw [d.toList_render h]
  simp only [List.append_assoc, List.cons_append]
  rw [dateIn?, year?_yearText _ (fun c hc => by cases hc; rfl)]
  simp [number?_padded, hmonth, hday, h]
  cases yearInRange d.year <;> rfl

-- ======================================================= times of day

/-- Hours and minutes as they are written, and what stands behind them. -/
def minutesText (c : Clock) (rest : List Char) : List Char :=
  (padded 2 (c.second / 3600)).toList ++ ':' ::
    ((padded 2 (c.second / 60 % 60)).toList ++ rest)

/-- Seconds as they are written, and what stands behind them. -/
def secondsText (c : Clock) (rest : List Char) : List Char :=
  ':' :: ((padded 2 c.secondOfMinute).toList ++ rest)

namespace Clock

variable {c : Clock}

/-- So do the parts of a time of day, where a second may be the sixtieth. -/
theorem IsSound.bounds (hc : c.IsSound) :
    c.second / 3600 < 24 ∧ c.second / 60 % 60 < 60
      ∧ c.secondOfMinute ≤ 60 := by
  have hsecond := hc.second_lt
  refine ⟨by omega, by omega, ?_⟩
  rw [secondOfMinute]
  split <;> omega

/-- A clock is the one with its hours, minutes, seconds and fraction. -/
theorem IsSound.of_eq (hc : c.IsSound) :
    Clock.of (c.second / 3600) (c.second / 60 % 60) c.secondOfMinute
      c.fraction = c := by
  have hsecond := hc.second_lt
  have hnano := hc.nano_lt
  have hsplit : c.second / 3600 * 3600 + c.second / 60 % 60 * 60
      + c.second % 60 = c.second := by omega
  cases hleap : c.isLeap with
  | true =>
      have hlast := hc.leap hleap
      rw [hlast] at hsplit
      rw [isLeap_iff] at hleap
      have hfull : nanosPerSecond + (c.nano - nanosPerSecond) = c.nano :=
        Nat.add_sub_of_le hleap
      simp [Clock.of, secondOfMinute, fraction, isLeap_iff.mpr hleap, hlast,
        hsplit, hfull]
  | false =>
      have hne : c.second % 60 ≠ 60 := by omega
      simp [Clock.of, secondOfMinute, fraction, hleap, hne, hsplit]

/-- A time of day in its pieces, with or without seconds. -/
theorem toList_render (hc : c.IsSound) (seconds : Bool) :
    (c.render seconds).toList
      = minutesText c (if seconds then secondsText c [] else []) := by
  obtain ⟨hhour, hminute, hsecond⟩ := hc.bounds
  rw [Clock.render, twoDigits_eq (n := c.second / 3600) (by omega),
    twoDigits_eq (n := c.second / 60 % 60) (by omega),
    twoDigits_eq (n := c.secondOfMinute) (by omega)]
  cases seconds <;> simp [minutesText, secondsText, String.toList_append]

/-- With seconds, a time of day is read where nothing stands behind the
seconds. -/
theorem clockIn?_true (hc : c.IsSound) (rest : List Char) :
    clockIn? true (minutesText c (secondsText c rest))
      = if rest.isEmpty then some (Clock.of (c.second / 3600)
          (c.second / 60 % 60) c.secondOfMinute 0) else none := by
  obtain ⟨hhour, hminute, hsecond⟩ := hc.bounds
  have htwo : c.second / 3600 < 100 ∧ c.second / 60 % 60 < 100
      ∧ c.secondOfMinute < 100 := by omega
  rw [clockIn?, minutesText, secondsText]
  simp only [number?_padded, htwo, hhour, hminute, hsecond, after_cons,
    Nat.reducePow, Nat.zero_lt_two, Option.bind_eq_bind, Option.bind_some,
    decide_true, Bool.and_self, Bool.and_true, guard_true, Option.pure_def,
    ↓reduceIte]
  cases rest.isEmpty <;> rfl

/-- Without seconds a text is no time of day with seconds. -/
theorem clockIn?_true_minutes (hc : c.IsSound) :
    clockIn? true (minutesText c []) = none := by
  obtain ⟨hhour, hminute, hsecond⟩ := hc.bounds
  have htwo : c.second / 3600 < 100 ∧ c.second / 60 % 60 < 100 := by omega
  rw [clockIn?, minutesText, List.append_nil]
  simp only [number?_padded, number?_padded_nil, htwo, hhour, hminute,
    after_cons, after_nil, Nat.reducePow, Nat.zero_lt_two,
    Option.bind_eq_bind, Option.bind_some, Option.bind_none, decide_true,
    Bool.and_self, guard_true, Option.pure_def, ↓reduceIte]

/-- Without them, where nothing stands behind the minutes. -/
theorem clockIn?_false (hc : c.IsSound) (rest : List Char) :
    clockIn? false (minutesText c rest)
      = if rest.isEmpty then some (Clock.of (c.second / 3600)
          (c.second / 60 % 60) 0 0) else none := by
  obtain ⟨hhour, hminute, hsecond⟩ := hc.bounds
  have htwo : c.second / 3600 < 100 ∧ c.second / 60 % 60 < 100 := by omega
  rw [clockIn?, minutesText]
  simp only [number?_padded, htwo, hhour, hminute, after_cons,
    Nat.reducePow, Nat.zero_lt_two, Option.bind_eq_bind, Option.bind_some,
    decide_true, Bool.and_self, guard_true, Option.pure_def,
    Bool.false_eq_true, ↓reduceIte]

/-- A time of day is read as it is written. -/
theorem clockIn?_render {seconds : Bool} (h : Stamp.Shows seconds c) :
    clockIn? seconds (c.render seconds).toList = some c := by
  obtain ⟨hc, hfraction, hminutes⟩ := h
  have hof := hc.of_eq
  rw [hfraction] at hof
  rw [toList_render hc]
  cases seconds with
  | true => rw [if_pos rfl, clockIn?_true hc, if_pos List.isEmpty_nil, hof]
  | false =>
      obtain ⟨hleap, hsecond⟩ := hminutes rfl
      have hzero : c.secondOfMinute = 0 := by
        rw [secondOfMinute, hsecond, hleap]
        rfl
      rw [hzero] at hof
      rw [if_neg Bool.false_ne_true, clockIn?_false hc,
        if_pos List.isEmpty_nil, hof]

end Clock

-- ============================================== fractions and offsets

/-- Fewer than nine places count for the nine that they begin. -/
theorem nanos?_places {w n : Nat} (hw : 0 < w) (hnine : w ≤ 9)
    (h : n < 10 ^ w) {rest : List Char}
    (hrest : ∀ c ∈ rest.head?, isAsciiDigit c = false) :
    nanos? ('.' :: ((padded w n).toList ++ rest))
      = some (n * tenTo (9 - w), rest) := by
  have hempty : (padded w n).toList.isEmpty = false := by
    simpa using padded_ne_nil
  have hlen := length_padded hw h
  simp only [nanos?, takeWhile_front (p := isAsciiDigit)
    (fun _ => isAsciiDigit_of_mem_padded) hrest, hempty,
    List.take_of_length_le (hlen.le.trans hnine), hlen, ofDigits_padded,
    List.drop_left' hlen, Bool.false_eq_true, ↓reduceIte]

/-- A fraction is written in three, six or nine places, or not at all, and is
read again from each. -/
theorem nanos?_fractionText {n : Nat} (h : n < 1000000000)
    {rest : List Char}
    (hrest : ∀ c ∈ rest.head?, isAsciiDigit c = false ∧ c ≠ '.') :
    nanos? ((fractionText n).toList ++ rest) = some (n, rest) := by
  have hplaces : ∀ w k, 0 < w → w ≤ 9 → k < 10 ^ w →
      k * tenTo (9 - w) = n →
      nanos? (("." ++ padded w k).toList ++ rest) = some (n, rest) := by
    intro w k hw hnine hk hn
    rw [String.toList_append, List.append_assoc, ← hn]
    exact nanos?_places hw hnine hk fun c hc => (hrest c hc).1
  rw [fractionText]
  split
  case isTrue hzero =>
    rw [eq_of_beq hzero]
    cases rest with
    | nil => rfl
    | cons c rest =>
        unfold nanos?
        split
        case h_1 heq =>
          cases heq
          exact absurd rfl (hrest '.' rfl).2
        case h_2 => rfl
  case isFalse =>
  split
  case isTrue hthree =>
    exact hplaces 3 _ (by omega) (by omega) (by omega)
      (Nat.div_mul_cancel (Nat.dvd_of_mod_eq_zero (eq_of_beq hthree)))
  case isFalse =>
  split
  case isTrue hsix =>
    exact hplaces 6 _ (by omega) (by omega) (by omega)
      (Nat.div_mul_cancel (Nat.dvd_of_mod_eq_zero (eq_of_beq hsix)))
  case isFalse => exact hplaces 9 n (by omega) (by omega) h (Nat.mul_one n)

/-- Hours and minutes behind a sign are read as seconds, and those west of
Greenwich are negative. -/
theorem offset?_signed (negative : Bool) {hours minutes : Nat}
    (hhours : hours < 24) (hminutes : minutes < 60) :
    offset? ((if negative then '-' else '+') ::
        ((padded 2 hours).toList ++ ':' :: (padded 2 minutes).toList))
      = some (if negative then -(hours * 3600 + minutes * 60 : Int)
          else hours * 3600 + minutes * 60) := by
  have htwo : hours < 100 ∧ minutes < 100 := by omega
  have hsign : ∀ {sign : Char}, sign = '+' ∨ sign = '-' →
      offset? (sign :: ((padded 2 hours).toList ++ ':' ::
        (padded 2 minutes).toList))
        = some (if sign == '+' then (hours * 3600 + minutes * 60 : Int)
            else -(hours * 3600 + minutes * 60)) := by
    intro sign hsign
    have hguard : (sign == '+' || sign == '-' || sign.toNat == 0x2212)
        = true := by
      rcases hsign with rfl | rfl <;> rfl
    rw [offset?]
    · simp only [hguard, fixed?_padded, fixed?_padded_nil, htwo, hhours,
        hminutes, after_cons, guard_true, Nat.reducePow, Nat.zero_lt_two,
        Option.bind_eq_bind, Option.bind_some, Option.pure_def,
        List.isEmpty_nil, decide_true, Bool.and_self]
    · rintro rfl
      rcases hsign with h | h <;> cases h
    · rintro rfl
      rcases hsign with h | h <;> cases h
  cases negative with
  | true => exact hsign (.inr rfl)
  | false => exact hsign (.inl rfl)

/-- An offset of whole minutes within a day is read again. Its seconds would
not be written. -/
theorem offset?_offsetText {offset : Int} (hminutes : offset % 60 = 0)
    (hlow : -86400 < offset) (hhigh : offset < 86400) :
    offset? (offsetText offset).toList = some offset := by
  by_cases hzero : offset = 0
  · rw [hzero]
    rfl
  · obtain ⟨m, hm⟩ : ∃ m, m = offset.natAbs / 60 := ⟨_, rfl⟩
    have hvalue : ((m / 60 : Nat) : Int) * 3600 + (m % 60 : Nat) * 60
        = offset.natAbs := by omega
    have hhours : m / 60 < 24 := by omega
    have hrest : m % 60 < 60 := by omega
    have hread := offset?_signed (decide (offset < 0)) hhours hrest
    rw [hvalue] at hread
    rw [offsetText, if_neg (by simpa using hzero)]
    simp only [← hm, twoDigits_eq (n := m / 60) (by omega),
      twoDigits_eq (n := m % 60) (by omega), String.toList_append,
      List.append_assoc]
    simp only [decide_eq_true_eq] at hread
    by_cases hsign : offset < 0
    · simp only [hsign, ↓reduceIte] at hread ⊢
      refine Eq.trans ?_ (hread.trans ?_)
      · rfl
      · rw [show -(offset.natAbs : Int) = offset by omega]
    · simp only [hsign, ↓reduceIte] at hread ⊢
      refine Eq.trans ?_ (hread.trans ?_)
      · rfl
      · rw [show (offset.natAbs : Int) = offset by omega]

end Overlay.Calendar
