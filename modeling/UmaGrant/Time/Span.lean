import UmaGrant.Time.Instant
import UmaGrant.Json.Shape
/-! # Spans of time as text

A span is written as counted units, `1h 30m`, and read from numbers, fractions allowed, each with
a unit. A month is 30.44 days and a year 365.25 days long.
-/

namespace UmaGrant

/-- A span of time: whole seconds of 64 bits, and nanoseconds below a second. -/
structure Span where
  seconds : Nat
  nanos : Nat
deriving DecidableEq, Repr

inductive SpanUnit where
  | nanosecond
  | microsecond
  | millisecond
  | second
  | minute
  | hour
  | day
  | week
  | month
  | year
deriving DecidableEq, Repr

namespace SpanUnit

def names : List (String × SpanUnit) :=
  [("nanos", nanosecond), ("nsec", nanosecond), ("ns", nanosecond),
    ("usec", microsecond), ("us", microsecond), ("µs", microsecond),
    ("millis", millisecond), ("msec", millisecond), ("ms", millisecond),
    ("seconds", second), ("second", second), ("secs", second), ("sec", second), ("s", second),
    ("minutes", minute), ("minute", minute), ("mins", minute), ("min", minute), ("m", minute),
    ("hours", hour), ("hour", hour), ("hrs", hour), ("hr", hour), ("h", hour),
    ("days", day), ("day", day), ("d", day),
    ("weeks", week), ("week", week), ("wks", week), ("wk", week), ("w", week),
    ("months", month), ("month", month), ("M", month),
    ("years", year), ("year", year), ("yrs", year), ("yr", year), ("y", year)]

/-- The seconds of a unit of a second or more. -/
def seconds : SpanUnit → Nat
  | nanosecond | microsecond | millisecond => 0
  | second => 1
  | minute => 60
  | hour => 3600
  | day => 86400
  | week => 604800
  | month => 2630016
  | year => 31557600

/-- The nanoseconds of a unit below a second. -/
def nanos : SpanUnit → Nat
  | nanosecond => 1
  | microsecond => 1000
  | millisecond => 1000000
  | _ => 0

/-- How a fraction of a unit is measured: in nanoseconds up to a minute, in whole seconds above,
and not at all below a microsecond. -/
def fractionMeasure? : SpanUnit → Option (Nat × Nat)
  | nanosecond => none
  | microsecond => some (0, 1000)
  | millisecond => some (0, 1000000)
  | second => some (0, 1000000000)
  | minute => some (0, 60000000000)
  | unit => some (unit.seconds, 0)

end SpanUnit

namespace Span

def zero : Span := ⟨0, 0⟩

def ofSeconds (seconds : Nat) : Span := ⟨seconds, 0⟩

def isZero (span : Span) : Bool := span.seconds = 0 && span.nanos = 0

/-- The lifetime of a span. One beyond 63 bits of seconds is the longest lifetime. -/
def toLifetime (span : Span) : Lifetime :=
  if span.seconds < Nat.pow 2 63 then Lifetime.seconds span.seconds + span.nanos else Lifetime.longest

/-! ## Writing -/

/-- A counted unit, unless the count is zero. -/
def counted (count : Nat) (name : String) : List String :=
  if count = 0 then [] else [toString count ++ name]

def countedPlural (count : Nat) (name : String) : List String :=
  counted count (if count = 1 then name else name ++ "s")

def format (span : Span) : String :=
  if span.isZero then "0s"
  else
    let inYear := span.seconds % 31557600
    let inMonth := inYear % 2630016
    let inDay := inMonth % 86400
    String.intercalate " " <|
      countedPlural (span.seconds / 31557600) "year" ++ countedPlural (inYear / 2630016) "month" ++
        countedPlural (inMonth / 86400) "day" ++ counted (inDay / 3600) "h" ++
        counted (inDay % 3600 / 60) "m" ++ counted (inDay % 60) "s" ++
        counted (span.nanos / 1000000) "ms" ++ counted (span.nanos / 1000 % 1000) "us" ++
        counted (span.nanos % 1000) "ns"

/-! ## Reading -/

/-- Whether a character is blank: every character with the Unicode property of that name. -/
def isBlank (char : Char) : Bool :=
  let code := char.toNat
  (9 ≤ code && code ≤ 13) || code = 0x20 || code = 0x85 || code = 0xA0 || code = 0x1680 ||
    (0x2000 ≤ code && code ≤ 0x200A) || code = 0x2028 || code = 0x2029 || code = 0x202F ||
    code = 0x205F || code = 0x3000

/-- Whether a character may stand in the name of a unit. -/
def isUnitChar (char : Char) : Bool := char.isAlpha || char = 'µ'

/-- A number that still fits 64 bits. -/
def fits (value : Nat) : Option Nat := if value < Nat.pow 2 64 then some value else none

/-- Adds seconds and nanoseconds, if the sum fits. -/
def add? (span : Span) (seconds nanos : Nat) : Option Span := do
  let nanos ← fits (span.nanos + nanos)
  let carried ← fits (seconds + nanos / 1000000000)
  let total ← fits (span.seconds + carried)
  pure ⟨total, nanos % 1000000000⟩

/-- Adds so many units, and a fraction of one. The fraction has to be a whole number of what it is
measured in; nothing is rounded. -/
def addUnits? (span : Span) (count : Nat) (fraction : Option (Nat × Nat)) (unit : SpanUnit) :
    Option Span := do
  let seconds ← fits (count * unit.seconds)
  let nanos ← fits (count * unit.nanos)
  let whole ← span.add? seconds nanos
  match fraction with
  | none => pure whole
  | some (numerator, denominator) => do
    let (secondsMeasure, nanosMeasure) ← unit.fractionMeasure?
    let seconds ← fits (numerator * secondsMeasure)
    let nanos ← fits (numerator * nanosMeasure)
    if seconds % denominator = 0 ∧ nanos % denominator = 0 then
      whole.add? (seconds / denominator) (nanos / denominator)
    else none

/-- Reads the rest of a whole number, blanks within it included, up to a unit or a point. -/
def wholePart? (count : Nat) : List Char → Option (Nat × List Char)
  | [] => some (count, [])
  | char :: rest =>
    if char.isDigit then do
      let longer ← fits (count * 10 + (char.toNat - 48))
      wholePart? longer rest
    else if isBlank char then wholePart? count rest
    else if isUnitChar char || char = '.' then some (count, char :: rest)
    else none

/-- Reads the digits of a fraction as numerator and denominator, up to a unit. -/
def fractionPart? (numerator denominator : Nat) : List Char → Option ((Nat × Nat) × List Char)
  | [] => if denominator = 1 then none else some ((numerator, denominator), [])
  | char :: rest =>
    if char.isDigit then do
      let wider ← fits (denominator * 10)
      let longer ← fits (numerator * 10 + (char.toNat - 48))
      fractionPart? longer wider rest
    else if isBlank char then fractionPart? numerator denominator rest
    else if isUnitChar char then
      if denominator = 1 then none else some ((numerator, denominator), char :: rest)
    else none

/-- Reads the fraction of a number, if a point is next. -/
def fraction? (chars : List Char) : Option (Option (Nat × Nat) × List Char) :=
  match chars with
  | '.' :: rest => do
    let (fraction, rest) ← fractionPart? 0 1 rest
    pure (some fraction, rest)
  | other => some (none, other)

/-- Reads numbers with units after a span. Every number takes a character, so the length of the
text is enough fuel. -/
def numbers? (span : Span) : Nat → List Char → Option Span
  | 0, _ => none
  | fuel + 1, chars =>
    match chars.dropWhile isBlank with
    | [] => some span
    | first :: rest =>
      if first.isDigit then do
        let (count, rest) ← wholePart? (first.toNat - 48) rest
        let (fraction, rest) ← fraction? rest
        let name := rest.takeWhile isUnitChar
        let after := rest.drop name.length
        let unit ← Dict.lookup (String.ofList name) SpanUnit.names
        if after.head?.any fun char => !(char.isDigit || isBlank char) then none
        else
          let longer ← span.addUnits? count fraction unit
          numbers? longer fuel after
      else none

/-- The span that a text stands for. A lone `0` needs no unit. -/
def parse? (text : String) : Option Span :=
  if text = "0" then some zero
  else if text.toList.all isBlank then none
  else numbers? zero (text.length + 1) text.toList

def toJson (span : Span) : Json := .string span.format

def shape : Shape Span
  | .string text =>
    match parse? text with
    | some span => .ok span
    | none => .error (.wrongValue (.string text) "a duration")
  | json => Shape.mismatch "a duration" json

end Span

end UmaGrant
