import UmaGrant.Time.Instant
/-! # Instants as text

The format of RFC 3339: `2024-06-01T12:00:00.5+02:00`. Reading takes any ASCII character between
date and time, cuts a fraction after nine digits, and takes a leap second for the nanosecond before
it, where one can occur: at the very end of a month in UTC. Writing leaves trailing zeros of the
fraction out and writes `Z` for no offset.
-/

namespace UmaGrant.Rfc3339

/-- Why a text is not an instant. -/
inductive ReadFault where
  /-- A part of the text is not written as it should be. -/
  | component (name : String)
  /-- A fixed character is not where it should be. -/
  | literal
  | trailing
  /-- A part is written well and is too high or too low. -/
  | range (name : String)
deriving DecidableEq, Repr

def ReadFault.message : ReadFault → String
  | .component name => "the '" ++ name ++ "' component could not be parsed"
  | .literal => "a character literal was not valid"
  | .trailing => "unexpected trailing characters; the end of input was expected"
  | .range name => name ++ " was not in range"

/-- Why an instant cannot be written: the part that does not fit. -/
inductive WriteFault where
  | year
  | offsetHour
  | offsetSecond
deriving DecidableEq, Repr

def WriteFault.message : WriteFault → String
  | .year => "The year component cannot be formatted into the requested format."
  | .offsetHour => "The offset_hour component cannot be formatted into the requested format."
  | .offsetSecond => "The offset_second component cannot be formatted into the requested format."

/-! ## Writing -/

/-- The decimal digits of a number, at least `width` of them. -/
def padded (width value : Nat) : List Char :=
  let digits := Nat.toDigits 10 value
  List.replicate (width - digits.length) '0' ++ digits

def dropTrailingZeros (digits : List Char) : List Char :=
  (digits.reverse.dropWhile (· = '0')).reverse

def fractionText (nanos : Nat) : List Char :=
  if nanos = 0 then [] else '.' :: dropTrailingZeros (padded 9 nanos)

/-- The offset of a clock, in whole minutes. -/
def offsetText (offset : Int) : List Char :=
  if offset = 0 then ['Z']
  else
    (if offset < 0 then '-' else '+') ::
      (padded 2 (offset.natAbs / 3600) ++ ':' :: padded 2 (offset.natAbs / 60 % 60))

def format (zoned : ZonedInstant) : Except WriteFault String :=
  let clock := zoned.clock.nanos
  let date := Date.ofDays (clock / Instant.dayNanos)
  let inDay := (clock % Instant.dayNanos).toNat
  let seconds := inDay / 1000000000
  if date.year < 0 ∨ 9999 < date.year then .error .year
  else if 23 < zoned.offset.natAbs / 3600 then .error .offsetHour
  else if zoned.offset.natAbs % 60 ≠ 0 then .error .offsetSecond
  else
    .ok <| String.ofList <|
      padded 4 date.year.toNat ++ '-' :: padded 2 date.month ++ '-' :: padded 2 date.day ++
        'T' :: padded 2 (seconds / 3600) ++ ':' :: padded 2 (seconds / 60 % 60) ++
        ':' :: padded 2 (seconds % 60) ++ fractionText (inDay % 1000000000) ++
        offsetText zoned.offset

/-! ## Reading -/

/-- Reads exactly `count` digits. -/
def digits (name : String) (count : Nat) (chars : List Char) :
    Except ReadFault (Nat × List Char) :=
  let taken := chars.take count
  if taken.length = count ∧ taken.all Char.isDigit then
    .ok (taken.foldl (fun total char => total * 10 + (char.toNat - 48)) 0, chars.drop count)
  else .error (.component name)

/-- Reads a month, which is not zero. -/
def month (chars : List Char) : Except ReadFault (Nat × List Char) := do
  let (value, rest) ← digits "month" 2 chars
  if value = 0 then .error (.component "month") else .ok (value, rest)

def literal (expected : Char) : List Char → Except ReadFault (List Char)
  | char :: rest => if char = expected then .ok rest else .error .literal
  | [] => .error .literal

/-- Reads any ASCII character. A character of several bytes fills the place of the separator and
reaches into the hour. -/
def separator : List Char → Except ReadFault (List Char)
  | char :: rest => if char.toNat < 0x80 then .ok rest else .error (.component "hour")
  | [] => .error (.component "separator")

/-- The nanoseconds of a fraction's digits, of which nine count. -/
def fractionNanos (fraction : List Char) : Nat :=
  let kept := fraction.take 9
  kept.foldl (fun total char => total * 10 + (char.toNat - 48)) 0 * Nat.pow 10 (9 - kept.length)

/-- Reads the fraction of a second, if there is one. -/
def fraction (chars : List Char) : Except ReadFault (Nat × List Char) :=
  match chars with
  | '.' :: rest =>
    let taken := rest.takeWhile Char.isDigit
    if taken.isEmpty then .error (.component "subsecond")
    else .ok (fractionNanos taken, rest.drop taken.length)
  | other => .ok (0, other)

/-- Reads the offset of a clock, in seconds. -/
def offset (chars : List Char) : Except ReadFault (Int × List Char) :=
  match chars with
  | [] => .error (.component "offset hour")
  | sign :: rest =>
    if sign = 'Z' ∨ sign = 'z' then .ok (0, rest)
    else if sign = '+' ∨ sign = '-' then do
      let (hours, rest) ← digits "offset hour" 2 rest
      if 23 < hours then .error (.component "offset hour")
      else
        let rest ← literal ':' rest
        let (minutes, rest) ← digits "offset minute" 2 rest
        if 59 < minutes then .error (.range "offset minute")
        else
          let seconds : Int := hours * 3600 + minutes * 60
          .ok (if sign = '-' then -seconds else seconds, rest)
    else .error (.component "offset hour")

/-- Whether an instant is the last nanosecond of a month in UTC. -/
def endsMonth (instant : Instant) : Bool :=
  (Date.ofDays ((instant.nanos + 1) / Instant.dayNanos)).day = 1 &&
    (instant.nanos + 1) % Instant.dayNanos = 0

/-- The instant of its parts, of which the month is not zero. -/
def assemble (date : Date) (hour minute second nanos : Nat) (offset : Int) :
    Except ReadFault ZonedInstant :=
  let leap := second = 60
  let second := if leap then 59 else second
  let nanos := if leap then 999999999 else nanos
  if 12 < date.month then .error (.range "month")
  else if date.day = 0 ∨ Date.daysInMonth date.year date.month < date.day then .error (.range "day")
  else if 23 < hour then .error (.range "hour")
  else if 59 < minute then .error (.range "minute")
  else if 59 < second then .error (.range "second")
  else
    let clock := date.toDays * Instant.dayNanos +
      ((hour * 3600 + minute * 60 + second : Nat) : Int) * 1000000000 + nanos
    let zoned : ZonedInstant := ⟨⟨clock - offset * 1000000000⟩, offset⟩
    if leap ∧ !endsMonth zoned.instant then .error (.range "second") else .ok zoned

def parse (text : String) : Except ReadFault ZonedInstant := do
  let (year, rest) ← digits "year" 4 text.toList
  let rest ← literal '-' rest
  let (month, rest) ← month rest
  let rest ← literal '-' rest
  let (day, rest) ← digits "day" 2 rest
  let rest ← separator rest
  let (hour, rest) ← digits "hour" 2 rest
  let rest ← literal ':' rest
  let (minute, rest) ← digits "minute" 2 rest
  let rest ← literal ':' rest
  let (second, rest) ← digits "second" 2 rest
  let (nanos, rest) ← fraction rest
  let (offset, rest) ← offset rest
  if rest.isEmpty then assemble ⟨year, month, day⟩ hour minute second nanos offset
  else .error .trailing

end UmaGrant.Rfc3339
