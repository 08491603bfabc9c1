/-!
# Durations, instants and calendar time

**Clocks.** A duration is a number of nanoseconds and an instant is a signed number of nanoseconds
from the origin of a clock.

* `Instant.after?` — the instant a duration later, unless it lies beyond the range of the clock;
* `Duration.wholeMillis` — timers have millisecond resolution: a wait lasts the least number of
  whole milliseconds that is not shorter;
* `Timestamp.text` — calendar time in the notation of RFC 3339, in UTC.
-/

namespace QueueListener

/-- A length of time, in nanoseconds. -/
abbrev Duration := Nat

namespace Duration

/-- Nanoseconds in one second. -/
def perSecond : Nat := 1000000000

/-- Nanoseconds in one millisecond. -/
def perMilli : Nat := 1000000

/-- A number of seconds. -/
def ofSeconds (seconds : Nat) : Duration := seconds * perSecond

/-- A number of milliseconds. -/
def ofMillis (millis : Nat) : Duration := millis * perMilli

/-- The longest duration: all 64 bits of seconds and the last nanosecond of the next one. -/
def longest : Duration := 18446744073709551615 * perSecond + 999999999

/-- The whole seconds of a duration. -/
def seconds (d : Duration) : Nat := d / perSecond

/-- The nanoseconds beyond the whole seconds. -/
def subsecond (d : Duration) : Nat := d % perSecond

/-- The least number of milliseconds that is not shorter. -/
def wholeMillis (d : Duration) : Nat := (d + (perMilli - 1)) / perMilli

end Duration

/-- A point in time: signed nanoseconds from the origin of its clock. -/
abbrev Instant := Int

namespace Instant

/-- A number of milliseconds after the origin. -/
def ofMillis (millis : Int) : Instant := millis * Duration.perMilli

/-- The last instant of a clock that counts seconds in 64 signed bits. -/
def latest : Instant := 9223372036854775807 * Duration.perSecond + 999999999

/-- The instant `d` later, if the clock can show it. -/
def after? (t : Instant) (d : Duration) : Option Instant :=
  if t + d ≤ latest then some (t + d) else none

/-- How long `earlier` lies before `t`; nothing when it does not. -/
def since (t earlier : Instant) : Duration := (t - earlier).toNat

end Instant

/-- What keeps an instant or a delay from being formed. -/
inductive TimeFault
  | negativeDelay
  | beyondClock
  deriving DecidableEq, Repr

/-- The wording of the fault. -/
def TimeFault.message : TimeFault → String
  | .negativeDelay => "cannot convert float seconds to Duration: value is negative"
  | .beyondClock => "overflow when adding duration to instant"

/-- The instant `d` after `t`, or the fault that the clock does not reach so far. -/
def Instant.after (t : Instant) (d : Duration) : Except TimeFault Instant :=
  match t.after? d with
  | some later => .ok later
  | none => .error .beyondClock

/-- Calendar time: signed milliseconds since the first second of 1970, in UTC. -/
abbrev Timestamp := Int

namespace Timestamp

/-- A calendar day. -/
structure Date where
  year : Int
  month : Nat
  day : Nat
  deriving DecidableEq, Repr

/-- The day that many days after 1970-01-01, in the proleptic Gregorian calendar. Years are
counted from March, so that a leap day is the last day of its year and 400 years are one period
of 146097 days. -/
def dateOfDays (days : Int) : Date :=
  let shifted := days + 719468
  let period := shifted / 146097
  let inPeriod := (shifted % 146097).toNat
  let yearInPeriod := (inPeriod - inPeriod / 1460 + inPeriod / 36524 - inPeriod / 146096) / 365
  let dayInYear := inPeriod - (365 * yearInPeriod + yearInPeriod / 4 - yearInPeriod / 100)
  let monthFromMarch := (5 * dayInYear + 2) / 153
  let day := dayInYear - (153 * monthFromMarch + 2) / 5 + 1
  let month := if monthFromMarch < 10 then monthFromMarch + 3 else monthFromMarch - 9
  { year := period * 400 + yearInPeriod + (if month ≤ 2 then 1 else 0), month, day }

/-- A number with leading zeros up to a width. -/
def padded (width n : Nat) : String :=
  let digits := toString n
  String.ofList (List.replicate (width - digits.length) '0') ++ digits

/-- A year: four digits within 0 to 9999, else a sign and at least four digits. -/
def yearText (year : Int) : String :=
  if year < 0 then "-" ++ padded 4 year.natAbs
  else if year ≤ 9999 then padded 4 year.natAbs
  else "+" ++ padded 4 year.natAbs

/-- `2024-01-31T12:30:00.250Z`: three digits of fraction, or none for a whole second. -/
def text (t : Timestamp) : String :=
  let perDay : Int := 86400000
  let date := dateOfDays (t / perDay)
  let inDay := (t % perDay).toNat
  let millis := inDay % 1000
  let fraction := if millis = 0 then "" else "." ++ padded 3 millis
  yearText date.year ++ "-" ++ padded 2 date.month ++ "-" ++ padded 2 date.day ++ "T" ++
    padded 2 (inDay / 3600000) ++ ":" ++ padded 2 (inDay / 60000 % 60) ++ ":" ++
    padded 2 (inDay / 1000 % 60) ++ fraction ++ "Z"

end Timestamp

end QueueListener
