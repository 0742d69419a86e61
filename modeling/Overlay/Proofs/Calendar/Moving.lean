/-
Clocks, moments and stamps that are moved twice.

# Moved twice is moved once

A clock that does not stand in a leap second is its second and the days
that were passed, so two shifts add up (`Clock.shift_shift`). A leap
second is left by every shift but the one by nothing, and to which side
depends on the direction; two shifts add up if the first and both together
go the same way (`SameWay`). Dates count days, and so a moment follows its
clock.

# What a stamp shows

`Stamp.IsSound` holds of stamps that can be written down: their clock is
one of a day, a leap second stands at the end of a minute, and what the
form does not show is zero. Whole minutes keep this
(`Stamp.IsSound.of_shift?`).
-/
import Overlay.Calendar.Stamp
import Overlay.Proofs.Calendar.Dates

namespace Overlay.Calendar

-- ============================================================== clocks

/-- Whether the first of two shifts goes the same way as both together, or
goes nowhere. -/
def SameWay (j k : Int) : Prop :=
  j = 0 ∨ (0 < j ∧ 0 < j + k) ∨ (j < 0 ∧ j + k < 0)

namespace Clock

variable {c : Clock} {j k : Int}

/-- Whether a clock is one of a day. A leap second ends a minute. -/
structure IsSound (c : Clock) : Prop where
  second_lt : c.second < 86400
  nano_lt : c.nano < 2000000000
  leap : c.isLeap = true → c.second % 60 = 59

theorem isLeap_iff : c.isLeap = true ↔ 1000000000 ≤ c.nano := by
  rw [isLeap, decide_eq_true_eq]
  rfl

/-- The fraction of a second is below a second, in a leap second too. -/
theorem fraction_lt (h : c.IsSound) : c.fraction < 1000000000 := by
  have hnano := h.nano_lt
  have hsecond : nanosPerSecond = 1000000000 := rfl
  rw [fraction]
  split
  case isTrue => omega
  case isFalse hleap =>
    rw [isLeap_iff] at hleap
    omega

/-- The second that a clock is moved from. -/
def start (c : Clock) (seconds : Int) : Int :=
  if c.isLeap && seconds < 0 then c.second + 1 else c.second

/-- A time of day is moved from where it stands among the seconds of a day. A
leap second is the one in front of it or the one behind it, depending on the
direction, and is none any more unless it stays where it is. -/
theorem shift_eq (h : c.isLeap = true → k ≠ 0) :
    c.shift k = (⟨((c.start k + k) % 86400).toNat, c.fraction⟩,
      (c.start k + k) / 86400) := by
  have hmove : (c.isLeap && k == 0) = false := by
    cases hleap : c.isLeap with
    | false => rfl
    | true => simpa using h hleap
  rw [shift, hmove]
  rfl

/-- A leap second that is moved by nothing stays; everything else moves. -/
theorem stays_or_moves (c : Clock) (k : Int) :
    c.isLeap = true ∧ k = 0 ∨ (c.isLeap = true → k ≠ 0) := by
  by_cases hstay : c.isLeap = true ∧ k = 0
  · exact .inl hstay
  · exact .inr fun hleap hk => hstay ⟨hleap, hk⟩

theorem shift_zero_of_isLeap (h : c.isLeap = true) : c.shift 0 = (c, 0) := by
  simp [shift, h]

theorem start_of_not_isLeap (h : c.isLeap = false) : c.start k = c.second := by
  simp [start, h]

/-- A clock of a day stands where it stands. -/
theorem IsSound.shift_zero (h : c.IsSound) : c.shift 0 = (c, 0) := by
  cases hleap : c.isLeap with
  | true => exact shift_zero_of_isLeap hleap
  | false =>
      have hsecond := h.second_lt
      rw [shift_eq (by simp [hleap]), start_of_not_isLeap hleap, fraction,
        hleap]
      simp only [Bool.false_eq_true, ↓reduceIte, add_zero]
      rw [show ((c.second : Int) % 86400).toNat = c.second by omega,
        show (c.second : Int) / 86400 = 0 by omega]

/-- Moving a clock leaves a leap second. -/
theorem isLeap_shift (hc : c.IsSound) (h : c.isLeap = true → k ≠ 0) :
    (c.shift k).1.isLeap = false := by
  have := fraction_lt hc
  rw [shift_eq h, ← Bool.not_eq_true, isLeap_iff]
  simpa using this

/-- Clocks that are moved twice are moved once. -/
theorem shift_shift (hc : c.IsSound)
    (h : c.isLeap = true → SameWay j k) :
    c.shift (j + k) = (((c.shift j).1.shift k).1,
      (c.shift j).2 + ((c.shift j).1.shift k).2) := by
  rcases c.stays_or_moves j with ⟨hleap, rfl⟩ | hj
  · rw [shift_zero_of_isLeap hleap, zero_add, zero_add]
  · have hjk : c.isLeap = true → j + k ≠ 0 := fun hleap => by
      rcases h hleap with rfl | ⟨-, h⟩ | ⟨-, h⟩
      · exact absurd rfl (hj hleap)
      · exact h.ne'
      · exact h.ne
    have hstart : c.start (j + k) = c.start j := by
      cases hleap : c.isLeap with
      | false => rw [start_of_not_isLeap hleap, start_of_not_isLeap hleap]
      | true =>
          rcases h hleap with rfl | ⟨hj, hjk⟩ | ⟨hj, hjk⟩
          · exact absurd rfl (hj hleap)
          · simp [start, hj.not_gt, hjk.not_gt]
          · simp [start, hj, hjk]
    have hleft := isLeap_shift hc hj
    have hfraction : (c.shift j).1.fraction = c.fraction := by
      rw [fraction, hleft, shift_eq hj]
      rfl
    rw [shift_eq (c := (c.shift j).1) (by simp [hleft]),
      start_of_not_isLeap hleft, hfraction, shift_eq hj, shift_eq hjk,
      hstart]
    simp only [Prod.mk.injEq, mk.injEq, and_true]
    constructor <;> omega

/-- A clock that is moved is one of a day. -/
theorem IsSound.shift (hc : c.IsSound) : (c.shift k).1.IsSound := by
  rcases c.stays_or_moves k with ⟨hleap, rfl⟩ | hk
  · rwa [shift_zero_of_isLeap hleap]
  · have hleft := isLeap_shift hc hk
    have hfraction := fraction_lt hc
    rw [shift_eq hk] at hleft ⊢
    refine ⟨?_, ?_, fun h => absurd h (by simp [hleft])⟩
    · show ((c.start k + k) % 86400).toNat < 86400
      omega
    · show c.fraction < 2000000000
      omega

/-- The days that are passed are those of the shift, up to one. -/
theorem days_shift (hc : c.IsSound) :
    k - 86400 ≤ 86400 * (c.shift k).2
      ∧ 86400 * (c.shift k).2 ≤ k + 86400 := by
  have hsecond := hc.second_lt
  rcases c.stays_or_moves k with ⟨hleap, rfl⟩ | hk
  · rw [shift_zero_of_isLeap hleap]
    omega
  · have hstart : 0 ≤ c.start k ∧ c.start k ≤ 86400 := by
      rw [start]
      split <;> omega
    rw [shift_eq hk]
    omega

/-- Another zone, whole minutes away, shows a leap second at the end of a
minute. -/
theorem IsSound.zone (hc : c.IsSound) (hk : k % 60 = 0) :
    (c.zone k).1.IsSound := by
  have hleap : (c.zone k).1.isLeap = c.isLeap := rfl
  refine ⟨?_, hc.nano_lt, fun h => ?_⟩
  · show ((c.second + k) % 86400).toNat < 86400
    omega
  · have := hc.leap (hleap ▸ h)
    show ((c.second + k) % 86400).toNat % 60 = 59
    omega

/-- From zone to zone and back. -/
theorem zone_zone (c : Clock) (j k : Int) :
    ((c.zone j).1.zone k).1 = (c.zone (j + k)).1
      ∧ (c.zone j).2 + ((c.zone j).1.zone k).2 = (c.zone (j + k)).2 := by
  simp only [Clock.zone, mk.injEq, and_true, secondsPerDay]
  constructor <;> omega

/-- In universal time a time of day is the same. -/
theorem IsSound.zone_zero (hc : c.IsSound) : c.zone 0 = (c, 0) := by
  have hsecond := hc.second_lt
  simp only [Clock.zone, secondsPerDay, add_zero, Nat.cast_ofNat]
  rw [show ((c.second : Int) % 86400).toNat = c.second by omega,
    show (c.second : Int) / 86400 = 0 by omega]

end Clock

-- ============================================================= moments

namespace Moment

variable {m m' m'' : Moment} {j k : Int}

/-- A moment is moved by its time of day first, whose days over go to the date.
It fails where the year is out of range. -/
theorem shift?_eq_some_iff :
    m.shift? k = some m'
      ↔ m' = ⟨m.date.addDays (m.clock.shift k).2, (m.clock.shift k).1⟩
        ∧ yearInRange m'.date.year = true := by
  rw [shift?]
  simp only
  split
  case isTrue h =>
    rw [Option.some.injEq, eq_comm]
    exact ⟨fun heq => ⟨heq, heq ▸ h⟩, And.left⟩
  case isFalse h =>
    refine ⟨nofun, fun ⟨heq, h'⟩ => absurd ?_ h⟩
    rwa [heq] at h'

/-- A moment that can be moved by both shifts together can be moved by the
second after the first. -/
theorem shift?_shift? (hc : m.clock.IsSound)
    (h : m.clock.isLeap = true → SameWay j k)
    (hj : m.shift? j = some m') (hjk : m.shift? (j + k) = some m'') :
    m'.shift? k = some m'' := by
  rw [shift?_eq_some_iff] at hj hjk ⊢
  refine ⟨?_, hjk.2⟩
  rw [hjk.1, hj.1, Clock.shift_shift hc h]
  simp only [addDays_addDays]

/-- A moment that was moved stays where it is. -/
theorem shift?_zero (hc : m.clock.IsSound) (h : m.shift? j = some m') :
    m'.shift? 0 = some m' := by
  rw [shift?_eq_some_iff] at h ⊢
  obtain ⟨rfl, hyear⟩ := h
  rw [hc.shift.shift_zero]
  exact ⟨by rw [addDays_addDays, add_zero], hyear⟩

/-- Between two moments whose years can be told there is no shift beyond
the longest. -/
theorem natAbs_le_of_shift? (hc : m.clock.IsSound)
    (hj : m.shift? j = some m') (hjk : m.shift? (j + k) = some m'') :
    k.natAbs ≤ longestShift := by
  rw [shift?_eq_some_iff] at hj hjk
  obtain ⟨rfl, hj⟩ := hj
  obtain ⟨rfl, hjk⟩ := hjk
  have hfirst := dayNumber_bounds hj
  have hboth := dayNumber_bounds hjk
  have hdays := Clock.days_shift (k := j) hc
  have hdays' := Clock.days_shift (k := j + k) hc
  rw [longestShift]
  omega

/-- From zone to zone and back. -/
theorem zone_zone (m : Moment) (j k : Int) :
    (m.zone j).zone k = m.zone (j + k) := by
  obtain ⟨hclock, hdays⟩ := Clock.zone_zone m.clock j k
  simp only [zone, addDays_addDays, hclock, hdays]

end Moment

-- ============================================================== stamps

namespace Stamp

variable {s s' s'' : Stamp} {j k : Int}

/-- Whether a stamp stands in a leap second. -/
def isLeap : Stamp → Bool
  | .zoned utc _ => utc.clock.isLeap
  | .moment _ m => m.clock.isLeap
  | .day _ => false
  | .clock _ c => c.isLeap

/-- Whether a clock is shown as it is, with seconds or without. -/
def Shows (seconds : Bool) (c : Clock) : Prop :=
  c.IsSound ∧ c.fraction = 0
    ∧ (seconds = false → c.isLeap = false ∧ c.second % 60 = 0)

/-- Whether what is written of a stamp says all about it. -/
def IsSound : Stamp → Prop
  | .zoned utc offset =>
      utc.clock.IsSound ∧ (∃ n, utc.date = .ofDayNumber n)
        ∧ offset % 60 = 0 ∧ -86400 < offset ∧ offset < 86400
  | .moment layout m =>
      m.date.isValid = true ∧ yearInRange m.date.year = true
        ∧ Shows (layout != .minutes) m.clock
  | .day d => d.isValid = true ∧ yearInRange d.year = true
  | .clock seconds c => Shows seconds c

/-- Whole minutes leave the seconds of a minute alone. -/
theorem Shows.shift {seconds : Bool} {c : Clock} (h : Shows seconds c)
    (hk : k % 60 = 0) : Shows seconds (c.shift k).1 := by
  obtain ⟨hc, hfraction, hminutes⟩ := h
  rcases c.stays_or_moves k with ⟨hleap, rfl⟩ | hmove
  · rw [Clock.shift_zero_of_isLeap hleap]
    exact ⟨hc, hfraction, hminutes⟩
  · have hleft := Clock.isLeap_shift hc hmove
    refine ⟨hc.shift, ?_, fun hseconds => ⟨hleft, ?_⟩⟩
    · rw [Clock.fraction, hleft, Clock.shift_eq hmove]
      exact hfraction
    · obtain ⟨hleap, hsecond⟩ := hminutes hseconds
      rw [Clock.shift_eq hmove, Clock.start_of_not_isLeap hleap]
      show ((c.second + k) % 86400).toNat % 60 = 0
      omega

/-- A sound stamp that is moved by whole minutes is sound. -/
theorem IsSound.of_shift? (hs : s.IsSound) (hday : ∀ d, s ≠ .day d)
    (hk : k % 60 = 0) (h : s.shift? k = some s') : s'.IsSound := by
  cases s with
  | zoned utc offset =>
      obtain ⟨m, hm, rfl⟩ := Option.map_eq_some_iff.mp h
      obtain ⟨rfl, -⟩ := Moment.shift?_eq_some_iff.mp hm
      obtain ⟨hc, -, hoffset⟩ := hs
      exact ⟨hc.shift, ⟨_, rfl⟩, hoffset⟩
  | moment layout m =>
      obtain ⟨m', hm, rfl⟩ := Option.map_eq_some_iff.mp h
      obtain ⟨rfl, hyear⟩ := Moment.shift?_eq_some_iff.mp hm
      exact ⟨isValid_addDays _ _, hyear, hs.2.2.shift hk⟩
  | day d => exact absurd rfl (hday d)
  | clock seconds c =>
      cases h
      exact Shows.shift hs hk

/-- A stamp that is moved twice is moved once. -/
theorem IsSound.shift?_shift? (hs : s.IsSound) (hday : ∀ d, s ≠ .day d)
    (hleap : s.isLeap = true → SameWay j k) (hj : s.shift? j = some s')
    (hjk : s.shift? (j + k) = some s'') : s'.shift? k = some s'' := by
  cases s with
  | zoned utc offset =>
      obtain ⟨m, hm, rfl⟩ := Option.map_eq_some_iff.mp hj
      obtain ⟨m', hm', rfl⟩ := Option.map_eq_some_iff.mp hjk
      exact Option.map_eq_some_iff.mpr
        ⟨m', Moment.shift?_shift? hs.1 hleap hm hm', rfl⟩
  | moment layout m =>
      obtain ⟨m', hm, rfl⟩ := Option.map_eq_some_iff.mp hj
      obtain ⟨m'', hm', rfl⟩ := Option.map_eq_some_iff.mp hjk
      exact Option.map_eq_some_iff.mpr
        ⟨m'', Moment.shift?_shift? hs.2.2.1 hleap hm hm', rfl⟩
  | day d => exact absurd rfl (hday d)
  | clock seconds c =>
      cases hj
      cases hjk
      rw [shift?, Clock.shift_shift hs.1 hleap]

/-- What has a date is not moved beyond the longest shift. -/
theorem IsSound.natAbs_le (hs : s.IsSound) (hday : ∀ d, s ≠ .day d)
    (hclock : ∀ seconds c, s ≠ .clock seconds c)
    (hj : s.shift? j = some s') (hjk : s.shift? (j + k) = some s'') :
    k.natAbs ≤ longestShift := by
  cases s with
  | zoned utc offset =>
      obtain ⟨m, hm, -⟩ := Option.map_eq_some_iff.mp hj
      obtain ⟨m', hm', -⟩ := Option.map_eq_some_iff.mp hjk
      exact Moment.natAbs_le_of_shift? hs.1 hm hm'
  | moment layout m =>
      obtain ⟨m', hm, -⟩ := Option.map_eq_some_iff.mp hj
      obtain ⟨m'', hm', -⟩ := Option.map_eq_some_iff.mp hjk
      exact Moment.natAbs_le_of_shift? hs.2.2.1 hm hm'
  | day d => exact absurd rfl (hday d)
  | clock seconds c => exact absurd rfl (hclock seconds c)

/-- What was moved can be moved by nothing. -/
theorem IsSound.shift?_zero (hs : s.IsSound) (hday : ∀ d, s ≠ .day d)
    (h : s.shift? j = some s') : s'.shift? 0 = some s' := by
  cases s with
  | zoned utc offset =>
      obtain ⟨m, hm, rfl⟩ := Option.map_eq_some_iff.mp h
      rw [shift?, Moment.shift?_zero hs.1 hm, Option.map_some]
  | moment layout m =>
      obtain ⟨m', hm, rfl⟩ := Option.map_eq_some_iff.mp h
      rw [shift?, Moment.shift?_zero hs.2.2.1 hm, Option.map_some]
  | day d => exact absurd rfl (hday d)
  | clock seconds c =>
      cases h
      rw [shift?, hs.1.shift.shift_zero]

end Stamp

end Overlay.Calendar
