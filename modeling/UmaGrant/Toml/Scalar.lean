import UmaGrant.Json.Double
import UmaGrant.Text.Hex
import UmaGrant.Time.Instant
import UmaGrant.Toml.Value
/-! # Numbers, truth values and dates of configuration files

All of them are written without quotes and are told apart by their form.
-/

namespace UmaGrant.Toml

/-- Whether digits are grouped well: an underscore stands only between two digits. -/
def isGrouped (isDigit : Char → Bool) : List Char → Bool
  | [] => false
  | [last] => isDigit last
  | first :: '_' :: rest => isDigit first && isGrouped isDigit rest
  | first :: rest => isDigit first && isGrouped isDigit rest

def ungroup (digits : List Char) : List Char := digits.filter (· ≠ '_')

def valueOf (base : Nat) (digits : List Char) : Nat :=
  (ungroup digits).foldl (fun total char => total * base + (Hex.digit? char).getD 0) 0

/-- A whole number, if it is not too large for 128 bits. -/
def integer? (value : Int) : Option Value :=
  if -Int.pow 2 127 ≤ value ∧ value < Int.pow 2 128 then some (.integer value) else none

def basedInteger? (base : Nat) (digits : List Char) : Option Value :=
  if isGrouped (fun char => (Hex.digit? char).any (· < base)) digits then
    integer? (valueOf base digits)
  else none

/-- The sign in front of a number, and the rest. -/
def splitSign : List Char → Bool × List Char
  | '+' :: rest => (false, rest)
  | '-' :: rest => (true, rest)
  | other => (false, other)

/-- Whether digits may be the whole part of a decimal number: no zero leads others. -/
def isWholePart (digits : List Char) : Bool :=
  isGrouped Char.isDigit digits && (digits.length = 1 || digits.head? ≠ some '0')

/-- Splits a text at its first character with a property, which belongs to neither part. -/
def splitAt? (isMark : Char → Bool) (chars : List Char) : List Char × Option (List Char) :=
  match chars.dropWhile fun char => !isMark char with
  | [] => (chars, none)
  | _ :: rest => (chars.takeWhile fun char => !isMark char, some rest)

/-- Whether a decimal number is within the range of binary64. `exponent` is that of its last
digit. -/
def isFinite (digits : List Char) (exponent : Int) : Bool :=
  let significand := valueOf 10 digits
  let magnitude := (Nat.toDigits 10 significand).length + exponent
  if significand = 0 ∨ magnitude < 300 then true
  else if 310 < magnitude then false
  else if 0 ≤ exponent then
    (Double.ofQuotient? false (significand * Nat.pow 10 exponent.toNat) 1).isSome
  else (Double.ofQuotient? false significand (Nat.pow 10 (-exponent).toNat)).isSome

/-- A decimal number: whole, or with a fraction, an exponent, or both. -/
def decimal? (chars : List Char) : Option Value := do
  let (negative, unsigned) := splitSign chars
  let (mantissa, exponent) := splitAt? (fun char => char = 'e' || char = 'E') unsigned
  let (whole, fraction) := splitAt? (· = '.') mantissa
  let exponentDigits := exponent.map splitSign
  if isWholePart whole && fraction.all (isGrouped Char.isDigit) &&
      exponentDigits.all (fun digits => isGrouped Char.isDigit digits.2) then
    match fraction, exponentDigits with
    | none, none =>
      let value := valueOf 10 whole
      integer? (if negative then -value else value)
    | _, _ =>
      let decimals := ungroup (fraction.getD [])
      let scale : Int :=
        match exponentDigits with
        | some (true, digits) => -(valueOf 10 digits : Int)
        | some (false, digits) => valueOf 10 digits
        | none => 0
      if isFinite (whole ++ decimals) (scale - decimals.length) then
        some (.float (String.ofList chars))
      else none
  else none

/-! ## Dates and times -/

/-- Reads exactly so many digits as a number from `low` to `high`. -/
def field? (count low high : Nat) (chars : List Char) : Option (Nat × List Char) :=
  let digits := chars.take count
  if digits.length = count && digits.all Char.isDigit then
    let value := valueOf 10 digits
    if low ≤ value ∧ value ≤ high then some (value, chars.drop count) else none
  else none

def after? (expected : Char) : List Char → Option (List Char)
  | char :: rest => if char = expected then some rest else none
  | [] => none

def afterDate? (chars : List Char) : Option (List Char) := do
  let (year, rest) ← field? 4 0 9999 chars
  let rest ← after? '-' rest
  let (month, rest) ← field? 2 1 12 rest
  let rest ← after? '-' rest
  let (_, rest) ← field? 2 1 (Date.daysInMonth year month) rest
  some rest

/-- The text after the fraction of a second, if there is one. -/
def afterFraction? (chars : List Char) : Option (List Char) :=
  match chars with
  | '.' :: digit :: rest => if digit.isDigit then some (rest.dropWhile Char.isDigit) else none
  | '.' :: [] => none
  | other => some other

/-- The text after a time. Seconds may be left out. -/
def afterTime? (chars : List Char) : Option (List Char) := do
  let (_, rest) ← field? 2 0 23 chars
  let rest ← after? ':' rest
  let (_, rest) ← field? 2 0 59 rest
  match rest with
  | ':' :: rest => do
    let (_, rest) ← field? 2 0 60 rest
    afterFraction? rest
  | other => some other

/-- The text after the offset of a clock, if there is one. -/
def afterOffset? (chars : List Char) : Option (List Char) :=
  match chars with
  | [] => some []
  | sign :: rest =>
    if sign = 'Z' ∨ sign = 'z' then some rest
    else if sign = '+' ∨ sign = '-' then do
      let (_, rest) ← field? 2 0 23 rest
      let rest ← after? ':' rest
      let (_, rest) ← field? 2 0 59 rest
      some rest
    else none

/-- Whether a text is a date, a time, or both. -/
def isMoment (chars : List Char) : Bool :=
  match afterDate? chars with
  | some [] => true
  | some (mark :: rest) =>
    (mark = 'T' || mark = 't' || mark = ' ') &&
      ((afterTime? rest).bind afterOffset?) = some []
  | none => afterTime? chars = some []

/-! ## All together -/

/-- Whether a character may stand in a value without quotes. -/
def isScalarChar (char : Char) : Bool :=
  char.isAlphanum || ['+', '-', '_', '.', ':'].contains char

/-- The value that an unquoted text stands for. -/
def scalarOf? (chars : List Char) : Option Value :=
  match chars with
  | ['t', 'r', 'u', 'e'] => some (.bool true)
  | ['f', 'a', 'l', 's', 'e'] => some (.bool false)
  | '0' :: 'x' :: digits => basedInteger? 16 digits
  | '0' :: 'o' :: digits => basedInteger? 8 digits
  | '0' :: 'b' :: digits => basedInteger? 2 digits
  | other =>
    let unsigned := (splitSign other).2
    if unsigned = ['i', 'n', 'f'] ∨ unsigned = ['n', 'a', 'n'] then
      some (.float (String.ofList other))
    else if isMoment other then some (.moment (String.ofList other))
    else decimal? other

/-- Reads a value without quotes. A date takes a time along that follows after a space. -/
def scalar? (chars : List Char) : Option (Value × List Char) := do
  let word := chars.takeWhile isScalarChar
  let rest := chars.drop word.length
  let (word, rest) :=
    match rest with
    | ' ' :: next :: more =>
      if next.isDigit && afterDate? word = some [] then
        let time := (next :: more).takeWhile isScalarChar
        (word ++ ' ' :: time, (next :: more).drop time.length)
      else (word, rest)
    | _ => (word, rest)
  let value ← scalarOf? word
  some (value, rest)

end UmaGrant.Toml
