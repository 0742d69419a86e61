/-
Dates and their numbers.

# A day in its cycle

A cycle of 400 years is centuries, these are spans of four years, these
are years, and a year is days: a number with mixed digits, the last of
which may be one larger at the end of a span with a leap day (`Place`).
Every day of a cycle has such a place (`exists_place`). The calendar finds
the year of a day with one division, after it has taken the leap days out;
by the place this is the right year (`Place.year_eq`).

# What follows

Every number belongs to a date that exists (`isValid_ofDayNumber`), and
the date has that number (`dayNumber_ofDayNumber`). So days may be added
one after the other (`addDays_addDays`), and a date whose year can be told
has a number with bounds (`dayNumber_bounds`).
-/
import Mathlib
import Overlay.Calendar.Clock

namespace Overlay.Calendar

-- ============================================================== cycles

/-- Where a day stands in a cycle: in which century, in which span of four
years, in which year of it, and on which day. The year begins in March,
and only the last year of a span has a day 365, but for the last span of
the first three centuries. -/
structure Place (day century span year rest : Int) : Prop where
  hday : day = 36524 * century + 1461 * span + 365 * year + rest
  hcentury : 0 ≤ century ∧ century ≤ 3
  hspan : 0 ≤ span ∧ span ≤ 24
  hyear : 0 ≤ year ∧ year ≤ 3
  hrest : 0 ≤ rest ∧ rest ≤ 365
  hleap : rest = 365 → year = 3 ∧ (span ≤ 23 ∨ century = 3)

/-- Every day of a cycle has a place in it: a century, a span of four years, a
year and a day. -/
theorem exists_place {day : Int} (hlow : 0 ≤ day) (hhigh : day < 146097) :
    ∃ century span year rest, Place day century span year rest := by
  obtain ⟨c, hc⟩ : ∃ c, c = min 3 (day / 36524) := ⟨_, rfl⟩
  obtain ⟨t, ht⟩ : ∃ t, t = (day - 36524 * c) / 1461 := ⟨_, rfl⟩
  obtain ⟨y, hy⟩ : ∃ y, y = min 3 ((day - 36524 * c - 1461 * t) / 365) :=
    ⟨_, rfl⟩
  have hcentury : 0 ≤ c ∧ c ≤ 3 ∧ 36524 * c ≤ day
      ∧ (day < 36524 * c + 36524 ∨ c = 3) := by omega
  have hspan : 0 ≤ t ∧ t ≤ 24 ∧ 36524 * c + 1461 * t ≤ day
      ∧ day < 36524 * c + 1461 * t + 1461 := by omega
  exact ⟨c, t, y, day - 36524 * c - 1461 * t - 365 * y, by omega, by omega,
    by omega, by omega, by omega, by omega⟩

/-- The year of a day in its cycle. -/
theorem Place.year_eq {d c t y r : Int} (h : Place d c t y r) :
    (d - d / 1460 + d / 36524 - d / 146096) / 365
      = 100 * c + 4 * t + y := by
  obtain ⟨hd, hc, ht, hy, hr, hleap⟩ := h
  -- a leap day may have come up, and the last day of a cycle is its own
  have hleaps : d / 1460 = 25 * c + t ∧ 24 * c + t + 365 * y + r < 1460
      ∨ d / 1460 = 25 * c + t + 1
        ∧ 1460 ≤ 24 * c + t + 365 * y + r := by omega
  have hlast : 1461 * t + 365 * y + r < 36524 ∨ d = 146096 ∧ c = 3 := by
    omega
  have hcenturies : d / 36524 - d / 146096 = c := by
    rcases hlast with hlast | ⟨rfl, rfl⟩
    · have hleft : d / 36524 = c := by omega
      omega
    · rfl
  have htaken : d - d / 1460 + d / 36524 - d / 146096
      = d - d / 1460 + c := by
    rw [add_sub_assoc, hcenturies]
  rw [htaken]
  rcases hleaps with ⟨hleaps, hin⟩ | ⟨hleaps, hin⟩
  · rw [hleaps]
    omega
  · rw [hleaps]
    omega

/-- The days before the year of a day. -/
theorem Place.days_before {d c t y r : Int} (h : Place d c t y r) :
    365 * (100 * c + 4 * t + y) + (100 * c + 4 * t + y) / 4
      - (100 * c + 4 * t + y) / 100 = d - r := by
  obtain ⟨hd, hc, ht, hy, hr, hleap⟩ := h
  omega

-- =============================================================== dates

/-- The days before a year, counted from March and through all cycles. -/
def daysBefore (year : Int) : Int :=
  365 * year + year / 4 - year / 100 + year / 400

/-- Whole cycles have the same number of days each. -/
theorem daysBefore_add_cycles {z : Int} (h : 0 ≤ z ∧ z < 400) (k : Int) :
    daysBefore (z + 400 * k)
      = 365 * z + z / 4 - z / 100 + 146097 * k := by
  have hspans : (z + 400 * k) / 4 = z / 4 + 100 * k := by omega
  have hcenturies : (z + 400 * k) / 100 = z / 100 + 4 * k := by omega
  have hcycles : (z + 400 * k) / 400 = k := by omega
  rw [daysBefore, hspans, hcenturies, hcycles]
  omega

/-- So a place tells how many days are in front of its year. -/
theorem Place.daysBefore_eq {d c t y r : Int} (h : Place d c t y r)
    (k : Int) : daysBefore (100 * c + 4 * t + y + 400 * k)
      = 146097 * k + d - r := by
  have hbefore := h.days_before
  obtain ⟨-, hc, ht, hy, -, -⟩ := h
  rw [daysBefore_add_cycles (by omega), hbefore]
  ring

/-- The last day of a year is there only in front of a leap year. -/
theorem Place.isLeap_of_last {d c t y r : Int} (h : Place d c t y r)
    (hr : r = 365) (k : Int) :
    isLeap (100 * c + 4 * t + y + 400 * k + 1) = true := by
  obtain ⟨-, hc, ht, -, -, hleap⟩ := h
  obtain ⟨rfl, hspan⟩ := hleap hr
  have hfour : (100 * c + 4 * t + 3 + 400 * k + 1) % 4 = 0 := by omega
  simp only [isLeap, hfour, beq_self_eq_true, Bool.true_and, bne_iff_ne,
    Bool.or_eq_true, beq_iff_eq]
  rcases (show t ≤ 23 ∨ t = 24 ∧ c = 3 by omega) with hspan | ⟨rfl, rfl⟩
  · left
    omega
  · right
    omega

/-- The date of a number is that of a day in a year, counted from March.
The last day is there only in front of a leap year. -/
theorem exists_ofDayNumber (n : Int) :
    ∃ y r m : Int,
      n = daysBefore y + r ∧ 0 ≤ r ∧ r ≤ 365
      ∧ (r = 365 → isLeap (y + 1) = true)
      ∧ m = (5 * r + 2) / 153
      ∧ Date.ofDayNumber n
        = { year := if m < 10 then y else y + 1
            month := (if m < 10 then m + 3 else m - 9).toNat
            day := (r - (153 * m + 2) / 5 + 1).toNat } := by
  have hlow : 0 ≤ n % 146097 := by omega
  have hhigh : n % 146097 < 146097 := by omega
  obtain ⟨c, t, y, r, hplace⟩ := exists_place hlow hhigh
  have hr := hplace.hrest
  refine ⟨100 * c + 4 * t + y + 400 * (n / 146097), r,
    (5 * r + 2) / 153, ?_, hr.1, hr.2, fun hlast => ?_, rfl, ?_⟩
  · rw [hplace.daysBefore_eq]
    omega
  · exact hplace.isLeap_of_last hlast _
  · simp only [Date.ofDayNumber, hplace.year_eq, hplace.days_before,
      Int.sub_sub_self]
    clear hplace
    congr 1
    split <;> split <;> omega

/-- Every number belongs to a date that there is. -/
theorem isValid_ofDayNumber (n : Int) :
    (Date.ofDayNumber n).isValid = true := by
  obtain ⟨y, r, m, -, hr, hr', hleap, hm, heq⟩ := exists_ofDayNumber n
  have hmonth : 0 ≤ m ∧ m ≤ 11 := by omega
  have hday : 0 ≤ r - (153 * m + 2) / 5 := by omega
  rw [heq]
  simp only [Date.isValid, Bool.and_eq_true, decide_eq_true_eq]
  refine ⟨⟨⟨?_, ?_⟩, by omega⟩, ?_⟩
  · split <;> omega
  · split <;> omega
  · clear heq
    obtain ⟨hlow, hhigh⟩ := hmonth
    by_cases hlast : m = 11
    · -- February has the days that are left
      subst hlast
      by_cases hr'' : r = 365
      · simp [daysInMonth, hleap hr'', hr'']
      · have hshort : 28 ≤ daysInMonth (y + 1) 2 := by
          simp only [daysInMonth]
          split <;> omega
        simp
        omega
    · have hhigh' : m ≤ 10 := by omega
      interval_cases m <;> simp [daysInMonth] <;> omega

/-- And the date has that number. -/
theorem dayNumber_ofDayNumber (n : Int) :
    (Date.ofDayNumber n).dayNumber = n := by
  obtain ⟨y, r, m, hn, hr, hr', -, hm, heq⟩ := exists_ofDayNumber n
  have hmonth : 0 ≤ m ∧ m ≤ 11 := by omega
  have hday : 0 ≤ r - (153 * m + 2) / 5 := by omega
  rw [heq, hn, daysBefore, Date.dayNumber]
  clear hn heq
  by_cases hlast : m < 10
  · have hfirst : ((m + 3).toNat + 9 : Int) % 12 = m := by omega
    simp only [hlast, ↓reduceIte]
    rw [if_neg (by omega), hfirst]
    omega
  · have hfirst : ((m - 9).toNat + 9 : Int) % 12 = m := by omega
    simp only [hlast, ↓reduceIte]
    rw [if_pos (by omega), hfirst, add_sub_cancel_right]
    omega

/-- Days may be added one after the other. -/
theorem addDays_addDays (d : Date) (j k : Int) :
    (d.addDays j).addDays k = d.addDays (j + k) := by
  rw [Date.addDays, Date.addDays, dayNumber_ofDayNumber, Date.addDays,
    add_assoc]

theorem isValid_addDays (d : Date) (k : Int) :
    (d.addDays k).isValid = true :=
  isValid_ofDayNumber _

/-- A date that was counted off is left alone. -/
theorem addDays_zero_ofDayNumber (n : Int) :
    (Date.ofDayNumber n).addDays 0 = .ofDayNumber n := by
  rw [Date.addDays, dayNumber_ofDayNumber, add_zero]

/-- A date whose year can be told does not have a large number. -/
theorem dayNumber_bounds {n : Int}
    (h : yearInRange (Date.ofDayNumber n).year = true) :
    -96000000 < n ∧ n < 96000000 := by
  obtain ⟨y, r, m, hn, hr, hr', -, hm, heq⟩ := exists_ofDayNumber n
  rw [heq, yearInRange, Bool.and_eq_true, decide_eq_true_eq,
    decide_eq_true_eq] at h
  have hyear : -262144 ≤ y ∧ y ≤ 262142 := by
    clear hn
    split at h <;> dsimp only at h <;> omega
  clear h hm heq
  simp only [daysBefore] at hn
  omega

end Overlay.Calendar
