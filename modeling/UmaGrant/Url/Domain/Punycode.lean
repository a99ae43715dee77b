/-! # Labels in ASCII

A label with other characters than ASCII ones can be written in ASCII after `xn--`: first its ASCII
characters, then numbers in a mixed base of 36 that say which other characters go where.
-/

namespace UmaGrant.Url.Punycode

/-- The value of a digit in base 36. -/
def digit? (char : Char) : Option Nat :=
  if 'a' ≤ char ∧ char ≤ 'z' then some (char.toNat - 97)
  else if char.isDigit then some (char.toNat - 22)
  else none

/-- Halves a difference until it is small; counts the steps in units of 36. -/
def reduce (count delta : Nat) : Nat × Nat :=
  if _large : 455 < delta then reduce (count + 36) (delta / 35) else (count, delta)
termination_by delta
decreasing_by omega

/-- The bias after a step of the given size. -/
def nextBias (delta points : Nat) (first : Bool) : Nat :=
  let scaled := if first then delta / 700 else delta / 2
  let (count, rest) := reduce 0 (scaled + scaled / points)
  count + 36 * rest / (rest + 38)

/-- A number that still fits 32 bits. -/
def fits (value : Nat) : Option Nat := if value < Nat.pow 2 32 then some value else none

/-- Reads one number of variable length and adds it to a total. -/
def number? (bias total weight place : Nat) : List Char → Option (Nat × List Char)
  | [] => none
  | char :: rest => do
    let digit ← digit? char
    let total ← fits (total + digit * weight)
    let threshold := if place ≤ bias then 1 else min 26 (place - bias)
    if digit < threshold then some (total, rest)
    else
      let weight ← fits (weight * (36 - threshold))
      number? bias total weight (place + 36) rest

/-- Puts the numbered characters in their places, at most `fuel` of them. -/
def insertPoints (code index bias : Nat) (placed : List Char) : Nat → List Char → Option (List Char)
  | _, [] => some placed
  | 0, _ => none
  | fuel + 1, chars => do
    let (next, rest) ← number? bias index 1 36 chars
    let points := placed.length + 1
    let code := code + next / points
    if code.isValidChar then
      let place := next % points
      let placed := placed.take place ++ Char.ofNat code :: placed.drop place
      insertPoints code (place + 1) (nextBias (next - index) points (index = 0)) placed fuel rest
    else none

/-- The characters of a label, given what follows `xn--`: at most 2000 ASCII characters, of which
the last one is no hyphen, nor a lone one the first. -/
def decode? (chars : List Char) : Option (List Char) :=
  let backwards := chars.reverse
  let tail := (backwards.takeWhile (· ≠ '-')).reverse
  let before := (backwards.drop (tail.length + 1)).reverse
  if 2000 < chars.length ∨ tail.isEmpty ∨ chars.any (fun char => 0x80 ≤ char.toNat) then none
  else if tail.length < chars.length ∧ before.isEmpty then none
  else insertPoints 128 0 72 before tail.length tail

end UmaGrant.Url.Punycode
