/-! # Instants and dates

An instant counts nanoseconds from the start of 1970 in UTC. Dates follow the Gregorian calendar,
extended to all years; only those of the years -9999 to 9999 can be represented, and adding a
lifetime to an instant fails beyond them.
-/

namespace UmaGrant

/-- A point in time, in nanoseconds since the start of 1970 in UTC. -/
structure Instant where
  nanos : Int
deriving DecidableEq, Repr

/-- A length of time in nanoseconds; it may be negative. -/
abbrev Lifetime := Int

namespace Lifetime

def seconds (count : Int) : Lifetime := count * 1000000000

def minutes (count : Int) : Lifetime := seconds (count * 60)

/-- The longest lifetime: 64 bits of seconds and all their nanoseconds. -/
def longest : Lifetime := seconds (Int.pow 2 63 - 1) + 999999999

end Lifetime

structure Date where
  year : Int
  month : Nat
  day : Nat
deriving DecidableEq, Repr

namespace Date

def isLeapYear (year : Int) : Bool := year % 4 = 0 && (year % 100 ≠ 0 || year % 400 = 0)

def daysInMonth (year : Int) (month : Nat) : Nat :=
  if month = 2 then if isLeapYear year then 29 else 28
  else if month = 4 ∨ month = 6 ∨ month = 9 ∨ month = 11 then 30
  else 31

/-- Days from the start of 1970 to a date. Years are counted from March, so that the leap day is
the last one. -/
def toDays (date : Date) : Int :=
  let year := if date.month ≤ 2 then date.year - 1 else date.year
  let era := year / 400
  let yearOfEra := year % 400
  let monthFromMarch : Int := ((date.month : Int) + 9) % 12
  let dayOfYear := (153 * monthFromMarch + 2) / 5 + date.day - 1
  let dayOfEra := yearOfEra * 365 + yearOfEra / 4 - yearOfEra / 100 + dayOfYear
  era * 146097 + dayOfEra - 719468

/-- The date so many days after the start of 1970. -/
def ofDays (days : Int) : Date :=
  let shifted := days + 719468
  let era := shifted / 146097
  let dayOfEra := shifted % 146097
  let yearOfEra := (dayOfEra - dayOfEra / 1460 + dayOfEra / 36524 - dayOfEra / 146096) / 365
  let dayOfYear := dayOfEra - (365 * yearOfEra + yearOfEra / 4 - yearOfEra / 100)
  let monthFromMarch := (5 * dayOfYear + 2) / 153
  let day := dayOfYear - (153 * monthFromMarch + 2) / 5 + 1
  let month := if monthFromMarch < 10 then monthFromMarch + 3 else monthFromMarch - 9
  let year := yearOfEra + era * 400 + if month ≤ 2 then 1 else 0
  ⟨year, month.toNat, day.toNat⟩

end Date

namespace Instant

def dayNanos : Int := 86400000000000

def startOf (date : Date) : Instant := ⟨date.toDays * dayNanos⟩

/-- The first instant that has a date. -/
def earliest : Instant := startOf ⟨-9999, 1, 1⟩

/-- The last instant that has a date. -/
def latest : Instant := ⟨(startOf ⟨10000, 1, 1⟩).nanos - 1⟩

/-- Whether the date of an instant can be represented. -/
def inRange (instant : Instant) : Bool :=
  earliest.nanos ≤ instant.nanos && instant.nanos ≤ latest.nanos

/-- The instant after a lifetime, if it has a date. -/
def after? (instant : Instant) (lifetime : Lifetime) : Option Instant :=
  let later : Instant := ⟨instant.nanos + lifetime⟩
  if later.inRange then some later else none

/-- Whole seconds since the start of 1970, rounded down. -/
def unixSeconds (instant : Instant) : Int := instant.nanos / 1000000000

end Instant

/-- An instant and the offset of the clock that shows it, in seconds east of UTC. -/
structure ZonedInstant where
  instant : Instant
  offset : Int
deriving DecidableEq, Repr

namespace ZonedInstant

/-- The instant whose UTC clock shows what the zoned one shows. -/
def clock (zoned : ZonedInstant) : Instant := ⟨zoned.instant.nanos + zoned.offset * 1000000000⟩

/-- An instant as a UTC clock shows it. -/
def utc (instant : Instant) : ZonedInstant := ⟨instant, 0⟩

end ZonedInstant

end UmaGrant
