import NodeAdmin.Double.Arithmetic
import NodeAdmin.Time.Calendar

/-!
# Instants

An instant is a number of seconds from the start of 1970 in UTC with
nanoseconds. In a leap second the nanoseconds go past one thousand million and
the seconds stand still.
-/

namespace NodeAdmin.Time

structure Instant where
  seconds : Int
  nanos : Nat
  deriving DecidableEq, Repr

/-- A time of day; second 60 is a leap second. -/
structure ClockTime where
  hour : Nat
  minute : Nat
  second : Nat
  nanos : Nat
  deriving DecidableEq, Repr

def secondsPerDay : Int := 86400

def nanosPerSecond : Nat := 1000000000

namespace ClockTime

/-- Whether the time is on the clock. -/
def isValid (time : ClockTime) : Bool :=
  time.hour ≤ 23 && time.minute ≤ 59 && time.second ≤ 60

end ClockTime

namespace Instant

/-- The instant of a date and a time of day in UTC, when both exist and the year
is in range. A leap second is the second before it with more nanoseconds. -/
def ofCivil (date : CivilDate) (time : ClockTime) : Option Instant :=
  if date.isValid && time.isValid && yearInRange date.year then
    let leap := time.second == 60
    let second := if leap then 59 else time.second
    some {
      seconds := date.toDays * secondsPerDay +
        (time.hour * 3600 + time.minute * 60 + second : Nat)
      nanos := if leap then time.nanos + nanosPerSecond else time.nanos }
  else none

/-- The same clock read at an offset east of UTC lies that much earlier. -/
def atOffset (offset : Int) (instant : Instant) : Instant :=
  ⟨instant.seconds - offset, instant.nanos⟩

def date (instant : Instant) : CivilDate :=
  CivilDate.ofDays (instant.seconds / secondsPerDay)

def clock (instant : Instant) : ClockTime :=
  let second := (instant.seconds % secondsPerDay).toNat
  let leap := nanosPerSecond ≤ instant.nanos
  { hour := second / 3600
    minute := second / 60 % 60
    second := if leap then second % 60 + 1 else second % 60
    nanos := if leap then instant.nanos - nanosPerSecond else instant.nanos }

/-- An instant given in milliseconds, when its year is in range. -/
def ofMillis (millis : Int) : Option Instant :=
  let instant : Instant := ⟨millis / 1000, (millis % 1000).toNat * 1000000⟩
  if yearInRange instant.date.year then some instant else none

/-- An instant given as a double of seconds, to the nearest millisecond. -/
def ofUnixSeconds (seconds : Double) : Option Instant :=
  ofMillis (seconds * Double.ofNat 1000).round.toInt64.toInt

end Instant

end NodeAdmin.Time
