/-
Times of day, and dates with a time of day. A clock counts the seconds since
midnight; the fraction of a second is counted in nanoseconds, and a fraction of
a whole second or more means that the clock stands in a leap second, which
follows second 59.

Moving a clock by a whole number of seconds leaves a leap second: forwards it
counts as the second before it, backwards as the second after it. Not moving at
all stays within it.
-/
import Overlay.Calendar.Date

namespace Overlay.Calendar

/-- The nanoseconds of a second. -/
def nanosPerSecond : Nat := 1000000000

/-- The seconds of a day. -/
def secondsPerDay : Nat := 86400

/-- A time of day. -/
structure Clock where
  /-- Seconds since midnight. -/
  second : Nat
  nano : Nat
  deriving DecidableEq, Repr, Inhabited

namespace Clock

/-- The clock at an hour, a minute and a second; second 60 is a leap second. -/
def of (hour minute second nano : Nat) : Clock :=
  if second == 60 then ⟨hour * 3600 + minute * 60 + 59, nanosPerSecond + nano⟩
  else ⟨hour * 3600 + minute * 60 + second, nano⟩

/-- Midnight. -/
def midnight : Clock := ⟨0, 0⟩

/-- Whether the clock stands in a leap second. -/
def isLeap (c : Clock) : Bool := nanosPerSecond ≤ c.nano

/-- The seconds of the clock within its minute. -/
def secondOfMinute (c : Clock) : Nat :=
  c.second % 60 + (if c.isLeap then 1 else 0)

/-- The nanoseconds of the clock within its second. -/
def fraction (c : Clock) : Nat :=
  if c.isLeap then c.nano - nanosPerSecond else c.nano

/-- The clock moved by seconds, and the days that were passed. -/
def shift (c : Clock) (seconds : Int) : Clock × Int :=
  if c.isLeap && seconds == 0 then (c, 0)
  else
    let start : Int :=
      if c.isLeap && seconds < 0 then c.second + 1 else c.second
    let moved := start + seconds
    (⟨(moved % secondsPerDay).toNat, c.fraction⟩, moved / secondsPerDay)

/-- The clock in another zone, where every time is later by seconds; a leap
second stays one. -/
def zone (c : Clock) (seconds : Int) : Clock × Int :=
  let moved := (c.second : Int) + seconds
  (⟨(moved % secondsPerDay).toNat, c.nano⟩, moved / secondsPerDay)

end Clock

/-- A date with a time of day. -/
structure Moment where
  date : Date
  clock : Clock
  deriving DecidableEq, Repr, Inhabited

/-- Whether a year can be told. -/
def yearInRange (year : Int) : Bool := -262143 ≤ year && year ≤ 262142

/-- The date some days later. -/
def Date.addDays (d : Date) (days : Int) : Date :=
  .ofDayNumber (d.dayNumber + days)

namespace Moment

/-- The moment moved by seconds, if its year can still be told. -/
def shift? (m : Moment) (seconds : Int) : Option Moment :=
  let (clock, days) := m.clock.shift seconds
  let date := m.date.addDays days
  if yearInRange date.year then some ⟨date, clock⟩ else none

/-- The moment in another zone. -/
def zone (m : Moment) (seconds : Int) : Moment :=
  let (clock, days) := m.clock.zone seconds
  ⟨m.date.addDays days, clock⟩

end Moment

end Overlay.Calendar
