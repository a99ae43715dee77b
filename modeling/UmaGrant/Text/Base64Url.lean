/-! # Base64 in the URL alphabet, without padding

Three bytes are written as four symbols. `decode` is strict: every byte string has one written
form, so that left-over bits of the last symbol must be zero, and it says where a text departs from
that form.
-/

namespace UmaGrant.Base64Url

/-- Why a text is not the written form of any bytes. Offsets count bytes of the text. -/
inductive Fault where
  /-- A byte outside the alphabet. -/
  | symbol (byte : UInt8) (offset : Nat)
  /-- One symbol is left over, which carries less than a byte. -/
  | length (count : Nat)
  /-- The last symbol carries bits that belong to no byte. -/
  | lastSymbol (byte : UInt8) (offset : Nat)
  /-- Padding where none is written. -/
  | padding
deriving DecidableEq, Repr

def Fault.message : Fault → String
  | .symbol byte offset => "Invalid symbol " ++ toString byte.toNat ++ ", offset " ++ toString offset ++ "."
  | .length count => "Invalid input length: " ++ toString count
  | .lastSymbol byte offset =>
    "Invalid last symbol " ++ toString byte.toNat ++ ", offset " ++ toString offset ++ "."
  | .padding => "Invalid padding"

/-- The symbol of a value below 64. -/
def symbol (value : Nat) : UInt8 :=
  (if value < 26 then 65 + value
  else if value < 52 then 71 + value
  else if value < 62 then value - 4
  else if value = 62 then 45
  else 95).toUInt8

def value? (byte : UInt8) : Option Nat :=
  let code := byte.toNat
  if 65 ≤ code ∧ code ≤ 90 then some (code - 65)
  else if 97 ≤ code ∧ code ≤ 122 then some (code - 71)
  else if 48 ≤ code ∧ code ≤ 57 then some (code + 4)
  else if code = 45 then some 62
  else if code = 95 then some 63
  else none

/-- The written form of bytes. -/
def encode : List UInt8 → List UInt8
  | [] => []
  | [a] => [symbol (a.toNat / 4), symbol (a.toNat % 4 * 16)]
  | [a, b] =>
    [symbol (a.toNat / 4), symbol (a.toNat % 4 * 16 + b.toNat / 16), symbol (b.toNat % 16 * 4)]
  | a :: b :: c :: rest =>
    symbol (a.toNat / 4) :: symbol (a.toNat % 4 * 16 + b.toNat / 16) ::
      symbol (b.toNat % 16 * 4 + c.toNat / 64) :: symbol (c.toNat % 64) :: encode rest

def pad : UInt8 := 61

/-- The value of a symbol, or the fault at its offset. -/
def valueAt (byte : UInt8) (offset : Nat) : Except Fault Nat :=
  match value? byte with
  | some value => .ok value
  | none => .error (.symbol byte offset)

def firstByte (a b : Nat) : UInt8 := (a * 4 + b / 16).toUInt8

def secondByte (b c : Nat) : UInt8 := (b % 16 * 16 + c / 4).toUInt8

def thirdByte (c d : Nat) : UInt8 := (c % 4 * 64 + d).toUInt8

/-- The bytes of a last group of at most four symbols that starts at an offset. Padding is
refused as such only where it could stand: after two symbols, up to the end. -/
def decodeLast (group : List UInt8) (offset : Nat) : Except Fault (List UInt8) :=
  match group with
  | [] => .ok []
  | [a] => do
    let _ ← valueAt a offset
    .error (.length (offset + 1))
  | [a, b] => do
    let first ← valueAt a offset
    let second ← valueAt b (offset + 1)
    if second % 16 ≠ 0 then .error (.lastSymbol b (offset + 1))
    else .ok [firstByte first second]
  | [a, b, c] => do
    let first ← valueAt a offset
    let second ← valueAt b (offset + 1)
    if c = pad then .error .padding
    else
      let third ← valueAt c (offset + 2)
      if third % 4 ≠ 0 then .error (.lastSymbol c (offset + 2))
      else .ok [firstByte first second, secondByte second third]
  | a :: b :: c :: d :: _ => do
    let first ← valueAt a offset
    let second ← valueAt b (offset + 1)
    if c = pad ∧ d = pad then .error .padding
    else
      let third ← valueAt c (offset + 2)
      if d = pad then .error .padding
      else
        let fourth ← valueAt d (offset + 3)
        .ok [firstByte first second, secondByte second third, thirdByte third fourth]

/-- The bytes of groups of four symbols, the last group apart. -/
def decodeGroups (offset : Nat) : List UInt8 → Except Fault (List UInt8)
  | a :: b :: c :: d :: e :: rest => do
    let first ← valueAt a offset
    let second ← valueAt b (offset + 1)
    let third ← valueAt c (offset + 2)
    let fourth ← valueAt d (offset + 3)
    let bytes ← decodeGroups (offset + 4) (e :: rest)
    .ok (firstByte first second :: secondByte second third :: thirdByte third fourth :: bytes)
  | group => decodeLast group offset

/-- The bytes of a text. A stray last byte, which cannot complete a group, is reported before all
else if it is outside the alphabet. -/
def decode (text : List UInt8) : Except Fault (List UInt8) :=
  match text.getLast? with
  | some last =>
    if text.length % 4 = 1 ∧ last ≠ pad ∧ (value? last).isNone then
      .error (.symbol last (text.length - 1))
    else decodeGroups 0 text
  | none => .ok []

def encodeText (bytes : List UInt8) : String :=
  String.ofList ((encode bytes).map fun byte => Char.ofNat byte.toNat)

end UmaGrant.Base64Url
