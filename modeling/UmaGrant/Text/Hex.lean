/-! # Hexadecimal bytes

Bytes are written with two lower case digits each and read in either case.
-/

namespace UmaGrant.Hex

/-- The value of a hexadecimal digit of either case. -/
def digit? (char : Char) : Option Nat :=
  if '0' ≤ char ∧ char ≤ '9' then some (char.toNat - '0'.toNat)
  else if 'a' ≤ char ∧ char ≤ 'f' then some (char.toNat - 'a'.toNat + 10)
  else if 'A' ≤ char ∧ char ≤ 'F' then some (char.toNat - 'A'.toNat + 10)
  else none

/-- The lower case digit of a value below sixteen. -/
def digit (value : Nat) : Char :=
  if value < 10 then Char.ofNat ('0'.toNat + value) else Char.ofNat ('a'.toNat + (value - 10))

/-- The upper case digit of a value below sixteen. -/
def upperDigit (value : Nat) : Char :=
  if value < 10 then Char.ofNat ('0'.toNat + value) else Char.ofNat ('A'.toNat + (value - 10))

/-- Two lower case digits for every byte. -/
def encode : List UInt8 → List Char
  | [] => []
  | byte :: rest => digit (byte.toNat / 16) :: digit (byte.toNat % 16) :: encode rest

/-- The bytes of an even number of digits. -/
def decode? : List Char → Option (List UInt8)
  | [] => some []
  | [_] => none
  | high :: low :: rest =>
    match digit? high, digit? low, decode? rest with
    | some h, some l, some bytes => some ((h * 16 + l).toUInt8 :: bytes)
    | _, _, _ => none

/-- The lower case digits of a number, at least `width` of them. -/
def ofNat (width : Nat) (value : Nat) : List Char :=
  let digits := Nat.toDigits 16 value
  List.replicate (width - digits.length) '0' ++ digits

def toNat? (chars : List Char) : Option Nat :=
  chars.foldl
    (fun total char =>
      match total, digit? char with
      | some value, some next => some (value * 16 + next)
      | _, _ => none)
    (some 0)

end UmaGrant.Hex
