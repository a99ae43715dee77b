/-! # UTF-8

Characters and the bytes that carry them. `decode?` accepts the shortest form of each character
and nothing else: no surrogates, nothing beyond `U+10FFFF`.
-/

namespace UmaGrant.Utf8

def encodeChar (char : Char) : List UInt8 :=
  let code := char.toNat
  if code < 0x80 then [code.toUInt8]
  else if code < 0x800 then [(0xC0 + code / 64).toUInt8, (0x80 + code % 64).toUInt8]
  else if code < 0x10000 then
    [(0xE0 + code / 4096).toUInt8, (0x80 + code / 64 % 64).toUInt8, (0x80 + code % 64).toUInt8]
  else
    [(0xF0 + code / 262144).toUInt8, (0x80 + code / 4096 % 64).toUInt8,
      (0x80 + code / 64 % 64).toUInt8, (0x80 + code % 64).toUInt8]

def encode (chars : List Char) : List UInt8 := chars.flatMap encodeChar

def width (char : Char) : Nat :=
  if char.toNat < 0x80 then 1
  else if char.toNat < 0x800 then 2
  else if char.toNat < 0x10000 then 3
  else 4

def size (chars : List Char) : Nat := chars.foldl (fun total char => total + width char) 0

/-- Whether a byte continues a character. -/
def isTail (byte : UInt8) : Bool := 0x80 ≤ byte && byte ≤ 0xBF

/-- The six bits that a continuing byte carries. -/
def tailBits (byte : UInt8) : Nat := byte.toNat % 64

/-- The text that bytes carry, if they are well formed. -/
def decode? : List UInt8 → Option (List Char)
  | [] => some []
  | a :: rest =>
    if a < 0x80 then (decode? rest).map (Char.ofNat a.toNat :: ·)
    else match rest with
      | [] => none
      | b :: rest =>
        if !isTail b then none
        else if 0xC2 ≤ a && a ≤ 0xDF then
          (decode? rest).map (Char.ofNat (a.toNat % 32 * 64 + tailBits b) :: ·)
        else match rest with
          | [] => none
          | c :: rest =>
            if !isTail c then none
            else if 0xE0 ≤ a && a ≤ 0xEF then
              let code := a.toNat % 16 * 4096 + tailBits b * 64 + tailBits c
              if 0x800 ≤ code ∧ code.isValidChar then
                (decode? rest).map (Char.ofNat code :: ·)
              else none
            else match rest with
              | [] => none
              | d :: rest =>
                if !isTail d then none
                else if 0xF0 ≤ a && a ≤ 0xF4 then
                  let code := a.toNat % 8 * 262144 + tailBits b * 4096 + tailBits c * 64 + tailBits d
                  if 0x10000 ≤ code ∧ code.isValidChar then
                    (decode? rest).map (Char.ofNat code :: ·)
                  else none
                else none

/-- The character in front of bytes and its width, if they start with a well-formed one. -/
def leadingChar? (bytes : List UInt8) : Option (Char × Nat) :=
  [1, 2, 3, 4].findSome? fun count =>
    match decode? (bytes.take count) with
    | some [char] => some (char, count)
    | _ => none

/-- The characters that bytes carry, with none for each byte that belongs to no character. -/
def scan : List UInt8 → List (Option Char)
  | [] => []
  | byte :: rest =>
    match leadingChar? (byte :: rest) with
    | some (char, count) => some char :: scan (rest.drop (count - 1))
    | none => none :: scan rest
termination_by bytes => bytes.length
decreasing_by all_goals simp; try omega

def ofString (text : String) : List UInt8 := encode text.toList

/-- The string that bytes carry, if they are well formed. -/
def toString? (bytes : List UInt8) : Option String := (decode? bytes).map String.ofList

end UmaGrant.Utf8
