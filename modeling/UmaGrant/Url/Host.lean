import UmaGrant.Text.Hex
import UmaGrant.Text.Pieces
import UmaGrant.Text.Utf8
/-! # Hosts of URLs

Which texts may stand for a host. Of a valid host nothing is kept: no part of the engine looks at
it.
-/

namespace UmaGrant.Url

/-- The bytes of a text with every `%` and two digits read as a byte. -/
def percentDecode : List Char → List UInt8
  | [] => []
  | [a] => Utf8.encodeChar a
  | [a, b] => Utf8.encodeChar a ++ Utf8.encodeChar b
  | a :: b :: c :: rest =>
    if a = '%' then
      match Hex.digit? b, Hex.digit? c with
      | some high, some low => (high * 16 + low).toUInt8 :: percentDecode rest
      | _, _ => 37 :: percentDecode (b :: c :: rest)
    else Utf8.encodeChar a ++ percentDecode (b :: c :: rest)

/-! ## Version 4 addresses -/

/-- A number in decimal, octal after `0`, or hexadecimal after `0x`. -/
def addressNumber? (chars : List Char) : Option Nat :=
  let inBase (base : Nat) (digits : List Char) : Option Nat :=
    digits.foldl
      (fun total char =>
        match total, Hex.digit? char with
        | some value, some next => if next < base then some (value * base + next) else none
        | _, _ => none)
      (some 0)
  match chars with
  | [] => none
  | '0' :: 'x' :: rest => inBase 16 rest
  | '0' :: 'X' :: rest => inBase 16 rest
  | '0' :: next :: rest => inBase 8 (next :: rest)
  | other => inBase 10 other

/-- The labels of a domain, without the empty one after a final dot. -/
def labels (domain : List Char) : List (List Char) :=
  let pieces := Text.pieces (· = '.') domain
  match pieces.getLast? with
  | some [] => if pieces.length = 1 then pieces else pieces.dropLast
  | _ => pieces

/-- Whether a domain can only be a version 4 address: its last label is a number. -/
def endsInNumber (domain : List Char) : Bool :=
  match (labels domain).getLast? with
  | none => false
  | some last => (!last.isEmpty && last.all Char.isDigit) || (addressNumber? last).isSome

/-- Whether a domain is a version 4 address: up to four numbers, of which the last one fills the
bytes that the others leave. -/
def isAddressV4 (domain : List Char) : Bool :=
  let parts := labels domain
  match parts.mapM addressNumber? with
  | none => false
  | some numbers =>
    numbers.length ≤ 4 &&
      numbers.dropLast.all (· ≤ 255) &&
      (numbers.getLast?.any fun last => last < Nat.pow 256 (5 - numbers.length))

/-! ## Version 6 addresses -/

/-- Reads up to `limit` hexadecimal digits; says how many. -/
def takeHex (limit : Nat) (chars : List Char) : Nat × List Char :=
  let digits := (chars.take limit).takeWhile fun char => (Hex.digit? char).isSome
  (digits.length, chars.drop digits.length)

/-- Whether a text is four decimal bytes without leading zeros, between dots. -/
def isDottedQuad (chars : List Char) : Bool :=
  let parts := Text.pieces (· = '.') chars
  parts.length = 4 &&
    parts.all fun part =>
      !part.isEmpty && part.all Char.isDigit && part.length ≤ 3 &&
        (part.length = 1 || part.head? ≠ some '0') &&
        (part.foldl (fun total char => total * 10 + (char.toNat - 48)) 0 ≤ 255)

/-- Whether pieces of a version 6 address may follow after `count` pieces; `compressed` says that
a double colon was met. Each step takes a character, so the length of the text is enough fuel. -/
def piecesV6 (compressed : Bool) (count : Nat) : Nat → List Char → Bool
  | 0, _ => false
  | _ + 1, [] => if compressed then true else count = 8
  | fuel + 1, chars =>
    if count = 8 then false
    else
      match chars with
      | ':' :: rest => if compressed then false else piecesV6 true (count + 1) fuel rest
      | _ =>
        let (digits, rest) := takeHex 4 chars
        match rest with
        | [] => if compressed then true else count + 1 = 8
        | '.' :: _ =>
          digits ≠ 0 && count ≤ 6 && isDottedQuad chars && (compressed || count + 2 = 8)
        | [':'] => false
        | ':' :: rest => piecesV6 compressed (count + 1) fuel rest
        | _ => false

def isAddressV6 (chars : List Char) : Bool :=
  match chars with
  | ':' :: ':' :: rest => piecesV6 true 1 (rest.length + 1) rest
  | ':' :: _ => false
  | _ => 2 ≤ chars.length && piecesV6 false 0 (chars.length + 1) chars

def isBracketed (chars : List Char) : Bool :=
  chars.getLast? = some ']' && 2 ≤ chars.length && isAddressV6 (chars.drop 1).dropLast

end UmaGrant.Url
