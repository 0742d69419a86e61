/-
Dates and times as they are written are read again.

# The forms

The forms are tried one after the other, so a form is read again if the
forms in front of it do not read it. A moment with an offset comes first,
and the others have nothing behind the time of day (`zoned?_naive`); the
layouts differ in what stands behind the date and behind the minutes. So
a stamp that is sound is read from what is written of it
(`parse?_render_moment` and its siblings). Only an offset needs a year of
four digits: behind a longer one nothing reads it
(`parse?_render_eq_none`).

# What is read

In turn, what is read in any form is sound (`isSound_of_parse?`), so that
nothing is asked of a text but that it is read.
-/
import Overlay.Proofs.Calendar.Writing

namespace Overlay.Calendar

open Text Decimal

-- =============================================================== forms

/-- An offset does not go on with a fraction. -/
theorem head?_offsetText {offset : Int} :
    ∀ c ∈ (offsetText offset).toList.head?,
      isAsciiDigit c = false ∧ c ≠ '.' := by
  intro c hc
  rw [offsetText] at hc
  split at hc
  · cases hc
    decide
  · split at hc
    · obtain rfl : '-' = c := by simpa using hc
      decide
    · obtain rfl : '+' = c := by simpa using hc
      decide

/-- What is read behind the date of a moment with an offset. -/
def zonedClock? (date : Date) (cs : List Char) : Option Stamp := do
  let (hour, rest) ← fixed? 2 cs
  let (minute, rest) ← fixed? 2 (← after ':' rest)
  let (second, rest) ← fixed? 2 (← after ':' rest)
  let (nano, rest) ← nanos? rest
  let offset ← offset? rest
  guard (date.isValid && hour < 24 && minute < 60 && second ≤ 60)
  some (.zoned (Moment.zone ⟨date, .of hour minute second nano⟩ (-offset))
    offset)

/-- The date of a moment with an offset is taken off, behind either of the two
separators. -/
theorem zoned?_date {d : Date} (hd : d.isValid = true)
    (hyear : HasFourDigits d.year) {sep : Char} (hsep : sep = 'T' ∨ sep = ' ')
    (rest : List Char) :
    zoned? (d.render.toList ++ sep :: rest) = zonedClock? d rest := by
  obtain ⟨hmonth, hday⟩ := d.bounds hd
  have hfour : d.year.toNat < 10000 := by
    obtain ⟨hlow, hhigh⟩ := hyear
    omega
  have hdate : (⟨(d.year.toNat : Int), d.month, d.day⟩ : Date) = d := by
    rw [Int.toNat_of_nonneg hyear.1]
  have hseparate : (after 'T' (sep :: rest) <|> after 't' (sep :: rest)
      <|> after ' ' (sep :: rest)) = some rest := by
    rcases hsep with rfl | rfl <;> rfl
  rw [d.toList_render hd, yearText_of_hasFourDigits hyear, zoned?]
  simp only [List.append_assoc, List.cons_append, fixed?_padded, hfour,
    hmonth, hday, after_cons, Nat.reducePow, Nat.zero_lt_succ, hseparate,
    Option.bind_eq_bind, Option.bind_some, hdate]
  rfl

/-- Behind it the time of day and the offset are read again. The moment is kept
in universal time, so it is put back by the offset. -/
theorem zonedClock?_render {d : Date} {c : Clock} {offset : Int}
    (hd : d.isValid = true) (hc : c.IsSound) (hminutes : offset % 60 = 0)
    (hlow : -86400 < offset) (hhigh : offset < 86400) :
    zonedClock? d (minutesText c (secondsText c
        ((fractionText c.fraction).toList ++ (offsetText offset).toList)))
      = some (.zoned (Moment.zone ⟨d, c⟩ (-offset)) offset) := by
  obtain ⟨hhour, hminute, hsecond⟩ := hc.bounds
  have htwo : c.second / 3600 < 100 ∧ c.second / 60 % 60 < 100
      ∧ c.secondOfMinute < 100 := by omega
  rw [minutesText, secondsText, zonedClock?]
  simp only [fixed?_padded, htwo, after_cons, Nat.reducePow,
    Nat.zero_lt_succ, Option.bind_eq_bind, Option.bind_some,
    nanos?_fractionText (Clock.fraction_lt hc) head?_offsetText,
    offset?_offsetText hminutes hlow hhigh, hd, hhour, hminute,
    hsecond, hc.of_eq, decide_true, Bool.and_self, guard_true,
    Option.pure_def]

/-- Behind a time of day there has to be an offset. -/
theorem zonedClock?_naive {d : Date} {c : Clock} (hc : c.IsSound)
    (seconds : Bool) :
    zonedClock? d (c.render seconds).toList = none := by
  obtain ⟨hhour, hminute, hsecond⟩ := hc.bounds
  have htwo : c.second / 3600 < 100 ∧ c.second / 60 % 60 < 100
      ∧ c.secondOfMinute < 100 := by omega
  have hnone : nanos? [] = some (0, []) ∧ offset? [] = none := ⟨rfl, rfl⟩
  rw [Clock.toList_render hc, zonedClock?, minutesText]
  cases seconds <;>
    simp only [secondsText, List.append_nil, fixed?_padded,
      fixed?_padded_nil, htwo, after_cons, after_nil, Nat.reducePow,
      Nat.zero_lt_succ, Option.bind_eq_bind, Option.bind_some,
      Option.bind_none, hnone, Bool.false_eq_true, ↓reduceIte]

/-- A text whose year is not written with four digits has no offset. -/
theorem zoned?_of_not {d : Date} (hd : d.isValid = true)
    (h : ¬ HasFourDigits d.year) (rest : List Char) :
    zoned? (d.render.toList ++ rest) = none := by
  rw [d.toList_render hd, toList_yearText_of_not h, List.append_assoc,
    List.cons_append, zoned?,
    fixed?_eq_none (List.mem_cons_self ..) (by split <;> rfl)]
  rfl

/-- Nor has one that goes on with a time of day and nothing else. -/
theorem zoned?_naive {d : Date} {c : Clock} (hd : d.isValid = true)
    (hc : c.IsSound) {sep : Char} (hsep : sep = 'T' ∨ sep = ' ')
    (seconds : Bool) :
    zoned? (d.render.toList ++ sep :: (c.render seconds).toList)
      = none := by
  by_cases hyear : HasFourDigits d.year
  · rw [zoned?_date hd hyear hsep, zonedClock?_naive hc]
  · exact zoned?_of_not hd hyear _

/-- Behind the date a layout has its separator and its time of day. -/
theorem moment?_date (layout : Layout) {d : Date} (hd : d.isValid = true)
    (hyear : yearInRange d.year = true) (rest : List Char) :
    moment? layout (d.render.toList ++ rest)
      = (match layout with
          | .spaced => some (rest.dropWhile isBlank)
          | _ => after 'T' rest).bind fun text =>
        (clockIn? (layout != Layout.minutes) text).bind fun c =>
          some (.moment layout ⟨d, c⟩) := by
  rw [moment?, dateIn?_render hd, hyear]
  cases layout <;> rfl

/-- A moment is its date and its time of day, with a separator of its own for
each layout. -/
theorem toList_render_moment {m : Moment} (layout : Layout) :
    (Stamp.render (.moment layout m)).toList
      = m.date.render.toList
        ++ (if layout = .spaced then ' ' else 'T') ::
          (m.clock.render (layout != .minutes)).toList := by
  cases layout <;>
    rw [Stamp.render, String.toList_append, String.toList_append,
      List.append_assoc] <;>
    rfl

/-- No time of day begins with a letter. -/
theorem clockIn?_letter (seconds : Bool) (rest : List Char) :
    clockIn? seconds ('T' :: rest) = none := by
  rw [clockIn?, number?_eq_none (by decide) (by decide)]
  rfl

/-- White space does not stand in front of a time of day. -/
theorem isBlank_head?_render {c : Clock} (hc : c.IsSound)
    (seconds : Bool) :
    ∀ d ∈ (c.render seconds).toList.head?, isBlank d = false := by
  intro d hd
  rw [Clock.toList_render hc, minutesText] at hd
  obtain ⟨d', hd', hdigit⟩ := exists_head?_padded 2 (c.second / 3600)
    (':' :: ((padded 2 (c.second / 60 % 60)).toList
      ++ if seconds = true then secondsText c [] else []))
  rw [Option.mem_unique hd hd']
  exact isBlank_of_isAsciiDigit hdigit

/-- No blank stands in front of a time of day for the reader to pass over. -/
theorem dropWhile_render {c : Clock} (hc : c.IsSound) (seconds : Bool) :
    ((c.render seconds).toList).dropWhile isBlank
      = (c.render seconds).toList :=
  dropWhile_of_head (isBlank_head?_render hc seconds)

/-- A moment is read again in its own layout: the forms in front of it want an
offset, another separator or other pieces. -/
theorem parse?_render_moment {layout : Layout} {m : Moment}
    (hs : Stamp.IsSound (.moment layout m)) :
    Stamp.parse? (Stamp.render (.moment layout m)).toList
      = some (.moment layout m) := by
  obtain ⟨hd, hyear, hshows⟩ := hs
  have hc := hshows.1
  have hread := Clock.clockIn?_render hshows
  have hsep : (if layout = .spaced then ' ' else 'T') = 'T'
      ∨ (if layout = .spaced then ' ' else 'T') = ' ' := by
    cases layout <;> simp
  have hzoned := zoned?_naive hd hc hsep (layout != .minutes)
  have hblank : isBlank ' ' = true ∧ isBlank 'T' = false := by decide
  rw [toList_render_moment, Stamp.parse?, hzoned]
  simp only [moment?_date _ hd hyear, Option.orElse_eq_orElse,
    Option.orElse_eq_or, Option.none_or]
  cases layout with
  | joined =>
      rw [if_neg (by decide), after_cons, Option.bind_some, hread]
      rfl
  | spaced =>
      rw [if_pos rfl, after_ne (by decide), Option.bind_none,
        Option.none_or, List.dropWhile_cons_of_pos hblank.1,
        dropWhile_render hc, Option.bind_some, hread]
      rfl
  | minutes =>
      have hnone : clockIn? (Layout.joined != .minutes)
          (m.clock.render (Layout.minutes != .minutes)).toList = none := by
        have htext := Clock.toList_render hc false
        rw [if_neg Bool.false_ne_true] at htext
        exact htext ▸ Clock.clockIn?_true_minutes hc
      rw [if_neg (by decide), after_cons, Option.bind_some, hnone,
        List.dropWhile_cons_of_neg (by simp [hblank]), Option.bind_some,
        clockIn?_letter, Option.bind_some, hread]
      rfl

/-- A time of day is no date. -/
theorem dateIn?_minutesText {c : Clock} (hc : c.IsSound)
    (rest : List Char) : dateIn? (minutesText c rest) = none := by
  obtain ⟨hhour, -, -⟩ := hc.bounds
  have hlen := length_padded (w := 2) (n := c.second / 3600) (by omega)
    (by omega)
  have hread : year? (minutesText c rest)
      = some (((c.second / 3600 : Nat) : Int),
        ':' :: ((padded 2 (c.second / 60 % 60)).toList ++ rest)) := by
    rw [minutesText, year?_of_digit (exists_head?_padded ..),
      number?_front padded_ne_nil (fun _ => isAsciiDigit_of_mem_padded)
        (by omega) (.inr fun d hd => by cases hd; rfl), ofDigits_padded,
      Option.map_some]
  rw [dateIn?, hread]
  rfl

/-- Nor a moment with an offset. -/
theorem zoned?_minutesText {c : Clock} (hc : c.IsSound)
    (rest : List Char) : zoned? (minutesText c rest) = none := by
  obtain ⟨hhour, -, -⟩ := hc.bounds
  have hlen := length_padded (w := 2) (n := c.second / 3600) (by omega)
    (by omega)
  have hmem : ':' ∈ (minutesText c rest).take 4 := by
    rw [minutesText, List.take_append, hlen]
    simp
  rw [zoned?, fixed?_eq_none hmem rfl]
  rfl

/-- A time of day is read again, as no form in front of it takes a colon behind
two digits. -/
theorem parse?_render_clock {seconds : Bool} {c : Clock}
    (hs : Stamp.IsSound (.clock seconds c)) :
    Stamp.parse? (Stamp.render (.clock seconds c)).toList
      = some (.clock seconds c) := by
  have hc := hs.1
  have hread := Clock.clockIn?_render hs
  have htext := Clock.toList_render hc seconds
  have hdate : ∀ layout, moment? layout (c.render seconds).toList = none :=
    fun layout => by rw [htext, moment?, dateIn?_minutesText hc]; rfl
  have hday : day? (c.render seconds).toList = none := by
    rw [htext, day?, dateIn?_minutesText hc]
    rfl
  have hzoned : zoned? (c.render seconds).toList = none := by
    rw [htext, zoned?_minutesText hc]
  rw [Stamp.render, Stamp.parse?, hzoned, hdate, hdate, hdate, hday]
  cases seconds with
  | true =>
      rw [hread]
      rfl
  | false =>
      rw [if_neg Bool.false_ne_true] at htext
      rw [hread, htext, Clock.clockIn?_true_minutes hc]
      rfl

/-- The text of a moment with an offset. -/
theorem toList_render_zoned {utc : Moment} {offset : Int}
    (hc : (utc.zone offset).clock.IsSound) :
    (Stamp.render (.zoned utc offset)).toList
      = (utc.zone offset).date.render.toList ++ 'T' ::
        minutesText (utc.zone offset).clock
          (secondsText (utc.zone offset).clock
            ((fractionText (utc.zone offset).clock.fraction).toList
              ++ (offsetText offset).toList)) := by
  rw [Stamp.render]
  simp [String.toList_append, Clock.toList_render hc, minutesText,
    secondsText]

/-- A moment with an offset is read again if its year has four digits. -/
theorem parse?_render_zoned {utc : Moment} {offset : Int}
    (hs : Stamp.IsSound (.zoned utc offset))
    (hyear : HasFourDigits (utc.zone offset).date.year) :
    Stamp.parse? (Stamp.render (.zoned utc offset)).toList
      = some (.zoned utc offset) := by
  obtain ⟨hc, ⟨n, hn⟩, hminutes, hlow, hhigh⟩ := hs
  have hlocal : (utc.zone offset).clock.IsSound := hc.zone hminutes
  have hd : (utc.zone offset).date.isValid = true := isValid_addDays _ _
  have hback : (utc.zone offset).zone (-offset) = utc := by
    have hkeep : utc.date.addDays 0 = utc.date := by
      rw [hn, addDays_zero_ofDayNumber]
    rw [Moment.zone_zone, add_neg_cancel, Moment.zone, hc.zone_zero]
    show (⟨utc.date.addDays 0, utc.clock⟩ : Moment) = utc
    rw [hkeep]
  rw [toList_render_zoned hlocal, Stamp.parse?,
    zoned?_date hd hyear (.inl rfl),
    zonedClock?_render hd hlocal hminutes hlow hhigh, hback]
  rfl

/-- No time of day begins with a year that has a sign. -/
theorem clockIn?_of_not {d : Date} (hd : d.isValid = true)
    (h : ¬ HasFourDigits d.year) (seconds : Bool) (rest : List Char) :
    clockIn? seconds (d.render.toList ++ rest) = none := by
  rw [d.toList_render hd, toList_yearText_of_not h, List.append_assoc,
    List.cons_append, clockIn?,
    number?_eq_none (by split <;> decide) (by split <;> rfl)]
  rfl

/-- Behind a year of more digits an offset is not read. -/
theorem parse?_render_eq_none {utc : Moment} {offset : Int}
    (hs : Stamp.IsSound (.zoned utc offset))
    (hyear : ¬ HasFourDigits (utc.zone offset).date.year) :
    Stamp.parse? (Stamp.render (.zoned utc offset)).toList = none := by
  obtain ⟨hc, -, hminutes, hlow, hhigh⟩ := hs
  have hlocal : (utc.zone offset).clock.IsSound := hc.zone hminutes
  have hd : (utc.zone offset).date.isValid = true := isValid_addDays _ _
  rw [toList_render_zoned hlocal]
  generalize utc.zone offset = m at *
  obtain ⟨behind, hbehind⟩ : ∃ cs, cs = (fractionText m.clock.fraction).toList
    ++ (offsetText offset).toList := ⟨_, rfl⟩
  have hsome : behind.isEmpty = false := by
    have hread := offset?_offsetText hminutes hlow hhigh
    rw [List.isEmpty_eq_false_iff, hbehind]
    refine List.append_ne_nil_of_right_ne_nil _ fun hnil => ?_
    rw [hnil] at hread
    cases hread
  have hmoment : ∀ layout, moment? layout (m.date.render.toList ++ 'T' ::
      minutesText m.clock (secondsText m.clock behind)) = none := by
    intro layout
    cases hrange : yearInRange m.date.year with
    | false =>
        rw [moment?, dateIn?_render hd, hrange]
        rfl
    | true =>
        rw [moment?_date layout hd hrange]
        cases layout with
        | joined =>
            have hread := Clock.clockIn?_true hlocal behind
            rw [hsome, if_neg Bool.false_ne_true] at hread
            rw [after_cons, Option.bind_some]
            exact congrArg (Option.bind · _) hread
        | spaced =>
            rw [List.dropWhile_cons_of_neg (by decide), Option.bind_some,
              clockIn?_letter]
            rfl
        | minutes =>
            have hread := Clock.clockIn?_false hlocal
              (secondsText m.clock behind)
            rw [after_cons, Option.bind_some]
            exact congrArg (Option.bind · _) hread
  have hday : day? (m.date.render.toList ++ 'T' ::
      minutesText m.clock (secondsText m.clock behind)) = none := by
    rw [day?, dateIn?_render hd]
    split <;> rfl
  rw [← hbehind, Stamp.parse?, zoned?_of_not hd hyear, hmoment, hmoment,
    hmoment, hday, clockIn?_of_not hd hyear, clockIn?_of_not hd hyear]
  rfl

-- ========================================================= soundness

/-- A fraction that is read is below a second; digits behind the ninth are
dropped. -/
theorem lt_of_nanos? {cs rest : List Char} {n : Nat}
    (h : nanos? cs = some (n, rest)) : n < 1000000000 := by
  unfold nanos? at h
  split at h
  case h_1 text =>
    simp only at h
    split at h
    · cases h
    · cases h
      have hlen : ((text.takeWhile isAsciiDigit).take 9).length ≤ 9 :=
        List.length_take_le ..
      have hdigits : ∀ c ∈ (text.takeWhile isAsciiDigit).take 9,
          isAsciiDigit c = true := fun c hc =>
        List.mem_takeWhile_imp (List.mem_of_mem_take hc)
      have hlt := ofDigits_lt hdigits
      calc _ < 10 ^ ((text.takeWhile isAsciiDigit).take 9).length
            * 10 ^ (9 - ((text.takeWhile isAsciiDigit).take 9).length) :=
          Nat.mul_lt_mul_of_pos_right hlt (by positivity)
        _ = 10 ^ 9 := by rw [← pow_add, Nat.add_sub_cancel' hlen]
  case h_2 =>
    cases h
    decide

/-- An offset that is read has whole minutes and stays within a day. -/
theorem bounds_of_offset? {cs : List Char} {offset : Int}
    (h : offset? cs = some offset) :
    offset % 60 = 0 ∧ -86400 < offset ∧ offset < 86400 := by
  unfold offset? at h
  split at h
  · cases h
    decide
  · cases h
    decide
  · simp only [Option.bind_eq_bind, Option.bind_eq_some_iff,
      Option.guard_eq_some', Bool.and_eq_true, decide_eq_true_eq,
      exists_const, Prod.exists, Option.some.injEq] at h
    obtain ⟨-, hours, _, -, _, -, minutes, _, -, ⟨⟨-, hhours⟩, hminutes⟩,
      rfl⟩ := h
    split <;> omega
  · cases h

namespace Clock

/-- A time of day from parts within their bounds is sound, a leap second among
them. -/
theorem isSound_of {hour minute second nano : Nat} (hhour : hour < 24)
    (hminute : minute < 60) (hsecond : second ≤ 60)
    (hnano : nano < 1000000000) :
    (Clock.of hour minute second nano).IsSound := by
  by_cases hleap : second = 60
  · subst hleap
    refine ⟨?_, ?_, fun _ => ?_⟩ <;>
      simp only [Clock.of, beq_self_eq_true, ↓reduceIte, nanosPerSecond] <;>
      omega
  · have hof : Clock.of hour minute second nano
        = ⟨hour * 3600 + minute * 60 + second, nano⟩ := by
      simp [Clock.of, hleap]
    rw [hof]
    refine ⟨?_, ?_, fun h => ?_⟩
    · show hour * 3600 + minute * 60 + second < 86400
      omega
    · show nano < 2000000000
      omega
    · rw [isLeap_iff] at h
      exact absurd hnano (Nat.not_lt.mpr h)

/-- Without a fraction, and without seconds where none are written, it shows
all that it has. -/
theorem shows_of {hour minute second : Nat} {seconds : Bool}
    (hhour : hour < 24) (hminute : minute < 60) (hsecond : second ≤ 60)
    (h : seconds = false → second = 0) :
    Stamp.Shows seconds (Clock.of hour minute second 0) := by
  refine ⟨isSound_of hhour hminute hsecond (by decide), ?_, fun hs => ?_⟩
  · by_cases hleap : second = 60 <;>
      simp [Clock.of, hleap, fraction, isLeap, nanosPerSecond]
  · rw [h hs]
    refine ⟨rfl, ?_⟩
    show (hour * 3600 + minute * 60 + 0) % 60 = 0
    omega

/-- So a time of day that is read is written in full. -/
theorem shows_of_clockIn? {seconds : Bool} {cs : List Char} {c : Clock}
    (h : clockIn? seconds cs = some c) : Stamp.Shows seconds c := by
  simp only [clockIn?, Option.bind_eq_bind, Option.bind_eq_some_iff,
    Option.guard_eq_some', Bool.and_eq_true, decide_eq_true_eq,
    exists_const, Prod.exists] at h
  obtain ⟨hour, _, -, _, -, minute, rest, -, ⟨hhour, hminute⟩, h⟩ := h
  cases seconds with
  | true =>
      simp only [↓reduceIte, Option.bind_eq_some_iff, exists_const,
        Option.guard_eq_some', Prod.exists, Option.some.injEq] at h
      obtain ⟨_, -, second, _, -, ⟨-, hsecond⟩, rfl⟩ := h
      exact shows_of hhour hminute hsecond fun hs =>
        absurd hs.symm Bool.false_ne_true
  | false =>
      rw [if_neg Bool.false_ne_true] at h
      split at h
      · cases h
        exact shows_of hhour hminute (by omega) fun _ => rfl
      · cases h

end Clock

/-- A date that is read is valid and its year in range. -/
theorem valid_of_dateIn? {cs rest : List Char} {d : Date}
    (h : dateIn? cs = some (d, rest)) :
    d.isValid = true ∧ yearInRange d.year = true := by
  simp only [dateIn?, Option.bind_eq_bind, Option.bind_eq_some_iff,
    Option.guard_eq_some', Bool.and_eq_true, exists_const, Prod.exists,
    Option.some.injEq, Prod.mk.injEq] at h
  obtain ⟨year, _, -, _, -, month, _, -, _, -, day, _, -, ⟨hyear, hvalid⟩,
    rfl, -⟩ := h
  exact ⟨hvalid, hyear⟩

namespace Stamp

variable {cs : List Char} {s : Stamp}

/-- What is read in the form with an offset is sound. -/
theorem isSound_of_zoned? (h : zoned? cs = some s) : s.IsSound := by
  simp only [zoned?, Option.bind_eq_bind, Option.bind_eq_some_iff,
    Option.guard_eq_some', Bool.and_eq_true, decide_eq_true_eq,
    exists_const, Prod.exists, Option.some.injEq] at h
  obtain ⟨year, _, -, _, -, month, _, -, _, -, day, _, -, _, -, hour, _, -,
    _, -, minute, _, -, _, -, second, _, -, nano, _, hnano, offset,
    hoffset, ⟨⟨⟨-, hhour⟩, hminute⟩, hsecond⟩, rfl⟩ := h
  have hbounds := bounds_of_offset? hoffset
  have hc := Clock.isSound_of hhour hminute hsecond (lt_of_nanos? hnano)
  exact ⟨hc.zone (by omega), ⟨_, rfl⟩, hbounds⟩

/-- What is read in one of the layouts is sound. -/
theorem isSound_of_moment? {layout : Layout}
    (h : moment? layout cs = some s) : s.IsSound := by
  obtain ⟨⟨d, rest⟩, hdate, h⟩ := Option.bind_eq_some_iff.mp h
  obtain ⟨hvalid, hyear⟩ := valid_of_dateIn? hdate
  have hclock : ∃ text c, clockIn? (layout != .minutes) text = some c
      ∧ s = .moment layout ⟨d, c⟩ := by
    cases layout <;>
      simp only [Option.bind_eq_bind, Option.bind_eq_some_iff,
        Option.some.injEq] at h <;>
      obtain ⟨text, -, c, hc, rfl⟩ := h <;>
      exact ⟨text, c, hc, rfl⟩
  obtain ⟨text, c, hc, rfl⟩ := hclock
  exact ⟨hvalid, hyear, Clock.shows_of_clockIn? hc⟩

/-- A day that is read without a time is sound. -/
theorem isSound_of_day? (h : day? cs = some s) : s.IsSound := by
  obtain ⟨⟨d, rest⟩, hdate, h⟩ := Option.bind_eq_some_iff.mp h
  dsimp only at h
  split at h
  · cases h
    exact valid_of_dateIn? hdate
  · cases h

/-- A time of day that is read is sound. -/
theorem isSound_of_clock {seconds : Bool}
    (h : (clockIn? seconds cs).map (Stamp.clock seconds) = some s) :
    s.IsSound := by
  obtain ⟨c, hc, rfl⟩ := Option.map_eq_some_iff.mp h
  exact Clock.shows_of_clockIn? hc

/-- What is read is sound. -/
theorem isSound_of_parse? (h : parse? cs = some s) : s.IsSound := by
  simp only [parse?, Option.orElse_eq_orElse, Option.orElse_eq_or,
    Option.or_eq_some_iff] at h
  rcases h with h | ⟨-, h | ⟨-, h | ⟨-, h | ⟨-, h | ⟨-, h | ⟨-, h⟩⟩⟩⟩⟩⟩
  · exact isSound_of_zoned? h
  · exact isSound_of_moment? h
  · exact isSound_of_moment? h
  · exact isSound_of_moment? h
  · exact isSound_of_day? h
  · exact isSound_of_clock h
  · exact isSound_of_clock h

end Stamp

-- ========================================================== both ends

theorem isBlank_of_mem_padded {w n : Nat} {c : Char}
    (h : c ∈ (padded w n).toList) : isBlank c = false :=
  isBlank_of_isAsciiDigit (isAsciiDigit_of_mem_padded h)

/-- No blank stands in front of a date, so that trimming takes nothing from it
there. -/
theorem isBlank_head?_yearText {year : Int} {rest : List Char} :
    ∀ c ∈ ((yearText year).toList ++ rest).head?, isBlank c = false := by
  intro c hc
  by_cases h : HasFourDigits year
  · rw [yearText_of_hasFourDigits h,
      List.head?_append_of_ne_nil _ padded_ne_nil] at hc
    exact isBlank_of_mem_padded (List.mem_of_mem_head? hc)
  · rw [toList_yearText_of_not h] at hc
    cases hc
    split <;> decide

/-- No blank stands behind a time of day. -/
theorem isBlank_getLast?_render {c : Clock} (hc : c.IsSound)
    (seconds : Bool) (front : List Char) :
    ∀ d ∈ (front ++ (c.render seconds).toList).getLast?,
      isBlank d = false := by
  obtain ⟨middle, n, htext⟩ : ∃ middle n, (c.render seconds).toList
      = middle ++ (padded 2 n).toList := by
    rw [Clock.toList_render hc, minutesText]
    cases seconds with
    | false => exact ⟨(padded 2 (c.second / 3600)).toList ++ [':'],
        c.second / 60 % 60, by simp⟩
    | true => exact ⟨(padded 2 (c.second / 3600)).toList ++ ':' ::
        ((padded 2 (c.second / 60 % 60)).toList ++ [':']),
        c.secondOfMinute, by simp [secondsText]⟩
  intro d hd
  rw [htext, ← List.append_assoc,
    List.getLast?_append_of_ne_nil _ padded_ne_nil] at hd
  exact isBlank_of_mem_padded (List.mem_of_mem_getLast? hd)

/-- No blank stands behind an offset. -/
theorem isBlank_getLast?_offsetText (offset : Int) (front : List Char) :
    ∀ c ∈ (front ++ (offsetText offset).toList).getLast?,
      isBlank c = false := by
  intro c hc
  by_cases hzero : offset = 0
  · rw [hzero, List.getLast?_append_of_ne_nil _ (by decide)] at hc
    cases hc
    decide
  · rw [offsetText, if_neg (by simpa using hzero), String.toList_append,
      twoDigits_eq (n := offset.natAbs / 60 % 60) (by omega),
      ← List.append_assoc,
      List.getLast?_append_of_ne_nil _ padded_ne_nil] at hc
    exact isBlank_of_mem_padded (List.mem_of_mem_getLast? hc)

/-- Nothing is trimmed off a stamp as it is written. -/
theorem trim_render {s : Stamp} (hs : s.IsSound) (hday : ∀ d, s ≠ .day d) :
    trim s.render = s.render := by
  have hends : (∀ c ∈ s.render.toList.head?, isBlank c = false)
      ∧ ∀ c ∈ s.render.toList.getLast?, isBlank c = false := by
    cases s with
    | zoned utc offset =>
        have hlocal : (utc.zone offset).clock.IsSound := hs.1.zone hs.2.2.1
        have hd : (utc.zone offset).date.isValid = true := isValid_addDays _ _
        rw [toList_render_zoned hlocal]
        constructor
        · rw [Date.toList_render hd, List.append_assoc]
          exact isBlank_head?_yearText
        · have hlast := isBlank_getLast?_offsetText offset
            ((utc.zone offset).date.render.toList ++ 'T' ::
              minutesText (utc.zone offset).clock
                (secondsText (utc.zone offset).clock
                  (fractionText (utc.zone offset).clock.fraction).toList))
          simpa only [minutesText, secondsText, List.append_assoc,
            List.cons_append] using hlast
    | moment layout m =>
        rw [toList_render_moment]
        constructor
        · rw [m.date.toList_render hs.1, List.append_assoc]
          exact isBlank_head?_yearText
        · rw [List.append_cons]
          exact isBlank_getLast?_render hs.2.2.1 _ _
    | day d => exact absurd rfl (hday d)
    | clock seconds c =>
        constructor
        · exact isBlank_head?_render hs.1 seconds
        · exact isBlank_getLast?_render hs.1 seconds []
  rw [trim, trimList_eq_self_iff.mpr hends, String.ofList_toList]

end Overlay.Calendar
