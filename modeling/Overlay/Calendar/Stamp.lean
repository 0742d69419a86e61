/-
Dates and times as texts. The forms are tried one after the other:

* a moment with an offset from universal time, `2024-03-01T10:00:00.5+01:00`,
  every field with all its digits;
* a date with a time, `2024-03-01T10:00:00`, `2024-03-01 10:00:00` or
  `2024-03-01T10:00`;
* a date, `2024-03-01`;
* a time of day, `10:00:00` or `10:00`.

But for the first form, fields may have fewer digits and white space before
them. A year of more than four digits has a sign. What is written after a shift
has the form of what was read; a date that is no longer at midnight gets a
time.
-/
import Overlay.Calendar.Clock
import Overlay.Decimal.Read
import Overlay.Text.Cut

namespace Overlay.Calendar

open Text Decimal

/-- The layouts of a date with a time. -/
inductive Layout
  /-- The layout `2024-03-01T10:00:00`. -/
  | joined
  /-- The layout `2024-03-01 10:00:00`. -/
  | spaced
  /-- The layout `2024-03-01T10:00`. -/
  | minutes
  deriving DecidableEq, Repr

/-- A date or a time, with the form it was written in. -/
inductive Stamp
  /-- A moment of universal time, shown with an offset in seconds. -/
  | zoned (moment : Moment) (offset : Int)
  | moment (layout : Layout) (m : Moment)
  | day (d : Date)
  | clock (seconds : Bool) (c : Clock)
  deriving DecidableEq, Repr

-- ===== reading, all digits

/-- A number of exactly `count` digits. -/
def fixed? (count : Nat) (cs : List Char) : Option (Nat × List Char) :=
  let digits := cs.take count
  if digits.length == count && digits.all isAsciiDigit then
    some (ofDigits 10 digits, cs.drop count)
  else none

/-- The text after a character. -/
def after (c : Char) (cs : List Char) : Option (List Char) := after? [c] cs

/-- The nanoseconds after a point, if there is one; digits beyond the ninth are
dropped. -/
def nanos? (cs : List Char) : Option (Nat × List Char) :=
  match cs with
  | '.' :: rest =>
    let digits := rest.takeWhile isAsciiDigit
    let kept := digits.take 9
    if digits.isEmpty then none
    else
      some (ofDigits 10 kept * tenTo (9 - kept.length), rest.drop digits.length)
  | cs => some (0, cs)

/-- An offset from universal time in seconds, below a day. -/
def offset? (cs : List Char) : Option Int :=
  match cs with
  | ['Z'] => some 0
  | ['z'] => some 0
  | sign :: rest => do
    guard (sign == '+' || sign == '-' || sign.toNat == 0x2212)
    let (hours, rest) ← fixed? 2 rest
    let (minutes, rest) ← fixed? 2 (← after ':' rest)
    guard (rest.isEmpty && hours < 24 && minutes < 60)
    let seconds : Int := hours * 3600 + minutes * 60
    some (if sign == '+' then seconds else -seconds)
  | [] => none

/-- A moment with an offset. -/
def zoned? (cs : List Char) : Option Stamp := do
  let (year, rest) ← fixed? 4 cs
  let (month, rest) ← fixed? 2 (← after '-' rest)
  let (day, rest) ← fixed? 2 (← after '-' rest)
  let rest ← after 'T' rest <|> after 't' rest <|> after ' ' rest
  let (hour, rest) ← fixed? 2 rest
  let (minute, rest) ← fixed? 2 (← after ':' rest)
  let (second, rest) ← fixed? 2 (← after ':' rest)
  let (nano, rest) ← nanos? rest
  let offset ← offset? rest
  let date : Date := ⟨year, month, day⟩
  guard (date.isValid && hour < 24 && minute < 60 && second ≤ 60)
  some (.zoned
    (Moment.zone ⟨date, .of hour minute second nano⟩ (-offset)) offset)

-- ===== reading, fewer digits

/-- A number of at most `count` digits, after white space. -/
def number? (count : Nat) (cs : List Char) : Option (Nat × List Char) :=
  let cs := cs.dropWhile isBlank
  let digits := (cs.take count).takeWhile isAsciiDigit
  if digits.isEmpty then none
  else some (ofDigits 10 digits, cs.drop digits.length)

/-- A year: at most four digits, or a sign and any number of digits. -/
def year? (cs : List Char) : Option (Int × List Char) :=
  let signed (negative : Bool) (rest : List Char) : Option (Int × List Char) :=
    let digits := rest.takeWhile isAsciiDigit
    if digits.isEmpty then none
    else
      let n : Int := ofDigits 10 digits
      some (if negative then -n else n, rest.drop digits.length)
  match cs.dropWhile isBlank with
  | '-' :: rest => signed true rest
  | '+' :: rest => signed false rest
  | rest => (number? 4 rest).map fun (n, rest) => (n, rest)

/-- A date, and the text after it. -/
def dateIn? (cs : List Char) : Option (Date × List Char) := do
  let (year, rest) ← year? cs
  let (month, rest) ← number? 2 (← after '-' rest)
  let (day, rest) ← number? 2 (← after '-' rest)
  let date : Date := ⟨year, month, day⟩
  guard (yearInRange year && date.isValid)
  some (date, rest)

/-- A whole text as a time of day, with or without seconds. -/
def clockIn? (seconds : Bool) (cs : List Char) : Option Clock := do
  let (hour, rest) ← number? 2 cs
  let (minute, rest) ← number? 2 (← after ':' rest)
  guard (hour < 24 && minute < 60)
  if seconds then
    let (second, rest) ← number? 2 (← after ':' rest)
    guard (rest.isEmpty && second ≤ 60)
    some (.of hour minute second 0)
  else if rest.isEmpty then some (.of hour minute 0 0)
  else none

/-- A date with a time in one of the layouts. -/
def moment? (layout : Layout) (cs : List Char) : Option Stamp := do
  let (date, rest) ← dateIn? cs
  let rest ← match layout with
    | .spaced => some (rest.dropWhile isBlank)
    | _ => after 'T' rest
  let clock ← clockIn? (layout != .minutes) rest
  some (.moment layout ⟨date, clock⟩)

/-- A whole text as a date. -/
def day? (cs : List Char) : Option Stamp := do
  let (date, rest) ← dateIn? cs
  if rest.isEmpty then some (.day date) else none

/-- Reads a date or a time in any form. -/
def Stamp.parse? (cs : List Char) : Option Stamp :=
  zoned? cs <|> moment? .joined cs <|> moment? .spaced cs
    <|> moment? .minutes cs <|> day? cs
    <|> (clockIn? true cs).map (Stamp.clock true)
    <|> (clockIn? false cs).map (Stamp.clock false)

-- ===== writing

/-- A year; outside of four digits it has a sign. -/
def yearText (year : Int) : String :=
  if 0 ≤ year && year ≤ 9999 then fourDigits year.toNat
  else (if year < 0 then "-" else "+") ++ fourDigits year.natAbs

/-- A date as text. -/
def Date.render (d : Date) : String :=
  yearText d.year ++ "-" ++ twoDigits d.month ++ "-" ++ twoDigits d.day

/-- A time of day as text, with or without seconds. -/
def Clock.render (seconds : Bool) (c : Clock) : String :=
  let minutes :=
    twoDigits (c.second / 3600) ++ ":" ++ twoDigits (c.second / 60 % 60)
  if seconds then minutes ++ ":" ++ twoDigits c.secondOfMinute else minutes

/-- The digits of a number, with zeros in front up to `width`. -/
def padded (width n : Nat) : String :=
  let ds := Nat.toDigits 10 n
  String.ofList (List.replicate (width - ds.length) '0' ++ ds)

/-- A fraction of a second with no places, or three, six or nine of them. -/
def fractionText (nano : Nat) : String :=
  if nano == 0 then ""
  else if nano % 1000000 == 0 then "." ++ padded 3 (nano / 1000000)
  else if nano % 1000 == 0 then "." ++ padded 6 (nano / 1000)
  else "." ++ padded 9 nano

/-- An offset from universal time; none at all is written `Z`. -/
def offsetText (offset : Int) : String :=
  if offset == 0 then "Z"
  else
    let minutes := offset.natAbs / 60
    (if offset < 0 then "-" else "+") ++ twoDigits (minutes / 60) ++ ":"
      ++ twoDigits (minutes % 60)

/-- A date or a time as text. -/
def Stamp.render : Stamp → String
  | .zoned utc offset =>
    let m := utc.zone offset
    m.date.render ++ "T" ++ m.clock.render true ++ fractionText m.clock.fraction
      ++ offsetText offset
  | .moment .joined m => m.date.render ++ "T" ++ m.clock.render true
  | .moment .spaced m => m.date.render ++ " " ++ m.clock.render true
  | .moment .minutes m => m.date.render ++ "T" ++ m.clock.render false
  | .day d => d.render
  | .clock seconds c => c.render seconds

-- ===== shifting

/-- Why a text cannot be shifted. -/
inductive ShiftFault
  | notATime (raw : String)
  | outOfRange (raw : String) (minutes : Int)
  deriving DecidableEq, Repr

/-- The text of a fault. -/
def ShiftFault.message : ShiftFault → String
  | .notATime raw => "'" ++ raw ++ "' is not a recognised date or time"
  | .outOfRange raw minutes =>
    "shifting '" ++ raw ++ "' by " ++ toString minutes
      ++ " minutes is out of range"

/-- The longest shift, in seconds. -/
def longestShift : Nat := 9223372036854775

/-- A date or a time moved by seconds. Times of day pass midnight and go on;
anything with a date has to stay within the years that can be told. -/
def Stamp.shift? (seconds : Int) : Stamp → Option Stamp
  | .zoned utc offset => (utc.shift? seconds).map (.zoned · offset)
  | .moment layout m => (m.shift? seconds).map (.moment layout ·)
  | .day d =>
    (Moment.shift? ⟨d, .midnight⟩ seconds).map fun m =>
      if m.clock == .midnight then .day m.date else .moment .joined m
  | .clock shown c => some (.clock shown (c.shift seconds).1)

/-- A text with a date or a time, moved by minutes. -/
def shiftText (raw : String) (minutes : Int) : Except ShiftFault String :=
  let text := trim raw
  let seconds := minutes * 60
  if seconds.natAbs > longestShift then .error (.outOfRange text minutes)
  else
    match Stamp.parse? text.toList with
    | none => .error (.notATime text)
    | some stamp =>
      match stamp.shift? seconds with
      | some moved => .ok moved.render
      | none => .error (.outOfRange text minutes)

end Overlay.Calendar
