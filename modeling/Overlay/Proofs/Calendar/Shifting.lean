/-
Shifting a text twice.

A shift reads the text, moves what it read, and writes it down. What was
written is read again as the stamp that was moved (`parse?_render`), and
moving twice is moving once (`Stamp.IsSound.shift?_shift?`), so shifts add
up (`shiftText_shiftText`).

Three things stand in the way. A moment with an offset whose year has left
four digits is not read again. A time of day never leaves its range, so
that two shifts within the limit may need a third one beyond it. And a leap
second is left in the direction of the shift, so that there and back again
does not lead to it (`shifts_apart`).
-/
import Overlay.Proofs.Calendar.Rereading

namespace Overlay.Calendar

open Text

namespace Stamp

/-- Whether a stamp is a moment with an offset. -/
def isZoned : Stamp → Bool
  | .zoned _ _ => true
  | _ => false

/-- Whether a stamp is a time of day. -/
def isClock : Stamp → Bool
  | .clock _ _ => true
  | _ => false

end Stamp

/-- Whether a text begins with a digit. A date does if its year is written
with four digits, and begins with a sign if not. -/
def beginsWithDigit (text : String) : Bool :=
  text.toList.head?.any isAsciiDigit

/-- A moment with an offset begins with a digit just if its year has four of
them there, since every other year has a sign. -/
theorem beginsWithDigit_zoned {utc : Moment} {offset : Int}
    (hs : Stamp.IsSound (.zoned utc offset)) :
    beginsWithDigit (Stamp.render (.zoned utc offset)) = true
      ↔ HasFourDigits (utc.zone offset).date.year := by
  have hlocal : (utc.zone offset).clock.IsSound := hs.1.zone hs.2.2.1
  have hd : (utc.zone offset).date.isValid = true := isValid_addDays _ _
  rw [beginsWithDigit, toList_render_zoned hlocal, Date.toList_render hd,
    List.append_assoc]
  by_cases h : HasFourDigits (utc.zone offset).date.year
  · obtain ⟨c, hc, hdigit⟩ := exists_head?_padded 4
      (utc.zone offset).date.year.toNat _
    rw [yearText_of_hasFourDigits h, Option.mem_def.mp hc]
    exact iff_of_true hdigit h
  · refine iff_of_false ?_ h
    rw [toList_yearText_of_not h, List.cons_append, List.head?_cons]
    split <;> decide

/-- What was moved is read again, but for an offset behind a year of more
than four digits. -/
theorem parse?_render {s : Stamp} (hs : s.IsSound) (hday : ∀ d, s ≠ .day d) :
    Stamp.parse? (trim s.render).toList
      = if s.isZoned = true → beginsWithDigit s.render = true then some s
        else none := by
  rw [trim_render hs hday]
  cases s with
  | zoned utc offset =>
      by_cases h : HasFourDigits (utc.zone offset).date.year
      · rw [parse?_render_zoned hs h,
          if_pos fun _ => (beginsWithDigit_zoned hs).mpr h]
      · rw [parse?_render_eq_none hs h, if_neg fun h' =>
          h ((beginsWithDigit_zoned hs).mp (h' rfl))]
  | moment layout m => rw [parse?_render_moment hs, if_pos nofun]
  | day d => exact absurd rfl (hday d)
  | clock seconds c => rw [parse?_render_clock hs, if_pos nofun]

/-- A text is moved if the distance is not too long, the text is read, and the
result is in range; it is then written in the form that was read. -/
theorem shiftText_eq_ok_iff {t u : String} {a : Int} :
    shiftText t a = .ok u
      ↔ (a * 60).natAbs ≤ longestShift
        ∧ ∃ s s', Stamp.parse? (trim t).toList = some s
          ∧ s.shift? (a * 60) = some s' ∧ u = s'.render := by
  rw [shiftText]
  by_cases hlong : (a * 60).natAbs > longestShift
  · rw [if_pos hlong]
    exact iff_of_false nofun fun h => absurd h.1 (Nat.not_le.mpr hlong)
  · rw [if_neg hlong]
    cases hread : Stamp.parse? (trim t).toList with
    | none => simp
    | some s =>
        cases hmove : s.shift? (a * 60) with
        | none => simp [hmove]
        | some s' => simp [hmove, Nat.not_lt.mp hlong, eq_comm]

/-- Shifts add up. A text that is read as a date with a time or as a time
of day, and that is shifted, can be shifted again, but for a moment with an
offset whose year has left four digits; and shifting it again leads to
where one shift by both leads, if there is such a shift. For a time of day
the second shift has to be within the limit, and if the text stands in a
leap second, the first shift has to go the same way as both. -/
theorem shiftText_shiftText {t u : String} {a : Int} {s : Stamp}
    (hs : Stamp.parse? (trim t).toList = some s) (hday : ∀ d, s ≠ .day d)
    (hu : shiftText t a = .ok u) :
    ((∃ b w, shiftText u b = .ok w)
        ↔ (s.isZoned = true → beginsWithDigit u = true))
      ∧ ∀ b w, shiftText t (a + b) = .ok w →
        (s.isZoned = true → beginsWithDigit u = true) →
        (s.isClock = true → (b * 60).natAbs ≤ longestShift) →
        (s.isLeap = true → SameWay a b) →
        shiftText u b = .ok w := by
  obtain ⟨-, s₀, s', hread, hmove, rfl⟩ := shiftText_eq_ok_iff.mp hu
  obtain rfl : s = s₀ := Option.some.inj (hs.symm.trans hread)
  have hsound := Stamp.isSound_of_parse? hs
  have hsound' := hsound.of_shift? hday (by omega) hmove
  have hform : s'.isZoned = s.isZoned ∧ ∀ d, s' ≠ .day d := by
    cases s with
    | zoned utc offset =>
        obtain ⟨m, -, rfl⟩ := Option.map_eq_some_iff.mp hmove
        exact ⟨rfl, nofun⟩
    | moment layout m =>
        obtain ⟨m', -, rfl⟩ := Option.map_eq_some_iff.mp hmove
        exact ⟨rfl, nofun⟩
    | day d => exact absurd rfl (hday d)
    | clock seconds c =>
        cases hmove
        exact ⟨rfl, nofun⟩
  have hagain := parse?_render hsound' hform.2
  rw [hform.1] at hagain
  constructor
  · constructor
    · rintro ⟨b, w, hw⟩
      obtain ⟨-, s'', -, hread, -⟩ := shiftText_eq_ok_iff.mp hw
      by_contra h
      rw [if_neg h, hread] at hagain
      cases hagain
    · intro h
      rw [if_pos h] at hagain
      exact ⟨0, _, shiftText_eq_ok_iff.mpr ⟨by decide, s', s', hagain,
        by simpa using hsound.shift?_zero hday hmove, rfl⟩⟩
  · intro b w hw hyear hclock hleap
    obtain ⟨-, s₁, s'', hread, hboth, rfl⟩ := shiftText_eq_ok_iff.mp hw
    obtain rfl : s = s₁ := Option.some.inj (hs.symm.trans hread)
    rw [if_pos hyear] at hagain
    rw [show (a + b) * 60 = a * 60 + b * 60 by ring] at hboth
    have hsame : s.isLeap = true → SameWay (a * 60) (b * 60) := fun h => by
      have := hleap h
      unfold SameWay at this ⊢
      omega
    refine shiftText_eq_ok_iff.mpr ⟨?_, s', s'', hagain,
      hsound.shift?_shift? hday hsame hmove hboth, rfl⟩
    by_cases hc : s.isClock = true
    · exact hclock hc
    · refine hsound.natAbs_le hday ?_ hmove hboth
      rintro seconds c rfl
      exact hc rfl

/-- An hour and then a day, over the leap day and in another zone. -/
theorem shiftText_shiftText_leap_day :
    (∃ b w, shiftText "2024-02-29T00:30:00+01:00" b = .ok w)
      ∧ shiftText "2024-02-29T00:30:00+01:00" 1440
        = .ok "2024-03-01T00:30:00+01:00" := by
  have hread : (Stamp.parse? (trim "2024-02-28T23:30:00+01:00").toList).any
      (fun s => s.isZoned && !s.isLeap) = true := by
    decide +kernel
  obtain ⟨s, hs, hform⟩ := (Option.any_eq_true _ _).mp hread
  rw [Bool.and_eq_true, Bool.not_eq_true'] at hform
  have hday : ∀ d, s ≠ .day d := by
    rintro d rfl
    cases hform.1
  have hclock : s.isClock = true → (1440 * 60 : Int).natAbs ≤ longestShift :=
    fun _ => by decide
  have h := shiftText_shiftText (u := "2024-02-29T00:30:00+01:00") (a := 60)
    hs hday (by decide +kernel)
  exact ⟨h.1.mpr fun _ => by decide +kernel,
    h.2 1440 _ (by decide +kernel) (fun _ => by decide +kernel) hclock
      (by simp [hform.2])⟩

/-- A year of five digits, a time of day that is shifted from one end of
the limit to the other, and a leap second that is left and not found
again. -/
theorem shifts_apart :
    (shiftText "9999-12-31T23:59:00Z" 1 = .ok "+10000-01-01T00:00:00Z"
        ∧ shiftText "9999-12-31T23:59:00Z" (1 + 1)
          = .ok "+10000-01-01T00:01:00Z"
        ∧ ∀ b w, shiftText "+10000-01-01T00:00:00Z" b ≠ .ok w)
      ∧ (shiftText "10:00" (-153722867280912) = .ok "02:48"
        ∧ shiftText "10:00" (-153722867280912 + 307445734561824)
          = .ok "17:12"
        ∧ ∀ w, shiftText "02:48" 307445734561824 ≠ .ok w)
      ∧ shiftText "2016-12-31T23:59:60Z" 1 = .ok "2017-01-01T00:00:59Z"
      ∧ shiftText "2016-12-31T23:59:60Z" (1 + -1)
        = .ok "2016-12-31T23:59:60Z"
      ∧ shiftText "2017-01-01T00:00:59Z" (-1)
        = .ok "2016-12-31T23:59:59Z" := by
  refine ⟨⟨by decide +kernel, by decide +kernel, fun b w h => ?_⟩,
    ⟨by decide +kernel, by decide +kernel, fun w h => ?_⟩,
    by decide +kernel, by decide +kernel, by decide +kernel⟩
  · obtain ⟨-, s, -, hread, -⟩ := shiftText_eq_ok_iff.mp h
    have hnone : Stamp.parse? (trim "+10000-01-01T00:00:00Z").toList
        = none := by
      decide +kernel
    rw [hnone] at hread
    cases hread
  · have hlimit := (shiftText_eq_ok_iff.mp h).1
    exact absurd hlimit (by decide)

end Overlay.Calendar
