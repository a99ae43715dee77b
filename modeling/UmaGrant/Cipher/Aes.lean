/-! # The AES block cipher

AES with keys of 256 bits, in the direction of encryption, which is the only one that counter mode
needs. A block is four columns of four bytes.
-/

namespace UmaGrant.Aes

/-- A column of a block, or a word of the key schedule. -/
structure Word where
  a : UInt8
  b : UInt8
  c : UInt8
  d : UInt8
deriving DecidableEq, Repr

structure Block where
  first : Word
  second : Word
  third : Word
  fourth : Word
deriving DecidableEq, Repr

/-- The substitution of bytes: the inverse in the field of 256 elements, then an affine map. There is a row
for each high half of a byte. -/
def substitutions : List (List UInt8) :=
  [[0x63, 0x7C, 0x77, 0x7B, 0xF2, 0x6B, 0x6F, 0xC5, 0x30, 0x01, 0x67, 0x2B, 0xFE, 0xD7, 0xAB, 0x76],
    [0xCA, 0x82, 0xC9, 0x7D, 0xFA, 0x59, 0x47, 0xF0, 0xAD, 0xD4, 0xA2, 0xAF, 0x9C, 0xA4, 0x72, 0xC0],
    [0xB7, 0xFD, 0x93, 0x26, 0x36, 0x3F, 0xF7, 0xCC, 0x34, 0xA5, 0xE5, 0xF1, 0x71, 0xD8, 0x31, 0x15],
    [0x04, 0xC7, 0x23, 0xC3, 0x18, 0x96, 0x05, 0x9A, 0x07, 0x12, 0x80, 0xE2, 0xEB, 0x27, 0xB2, 0x75],
    [0x09, 0x83, 0x2C, 0x1A, 0x1B, 0x6E, 0x5A, 0xA0, 0x52, 0x3B, 0xD6, 0xB3, 0x29, 0xE3, 0x2F, 0x84],
    [0x53, 0xD1, 0x00, 0xED, 0x20, 0xFC, 0xB1, 0x5B, 0x6A, 0xCB, 0xBE, 0x39, 0x4A, 0x4C, 0x58, 0xCF],
    [0xD0, 0xEF, 0xAA, 0xFB, 0x43, 0x4D, 0x33, 0x85, 0x45, 0xF9, 0x02, 0x7F, 0x50, 0x3C, 0x9F, 0xA8],
    [0x51, 0xA3, 0x40, 0x8F, 0x92, 0x9D, 0x38, 0xF5, 0xBC, 0xB6, 0xDA, 0x21, 0x10, 0xFF, 0xF3, 0xD2],
    [0xCD, 0x0C, 0x13, 0xEC, 0x5F, 0x97, 0x44, 0x17, 0xC4, 0xA7, 0x7E, 0x3D, 0x64, 0x5D, 0x19, 0x73],
    [0x60, 0x81, 0x4F, 0xDC, 0x22, 0x2A, 0x90, 0x88, 0x46, 0xEE, 0xB8, 0x14, 0xDE, 0x5E, 0x0B, 0xDB],
    [0xE0, 0x32, 0x3A, 0x0A, 0x49, 0x06, 0x24, 0x5C, 0xC2, 0xD3, 0xAC, 0x62, 0x91, 0x95, 0xE4, 0x79],
    [0xE7, 0xC8, 0x37, 0x6D, 0x8D, 0xD5, 0x4E, 0xA9, 0x6C, 0x56, 0xF4, 0xEA, 0x65, 0x7A, 0xAE, 0x08],
    [0xBA, 0x78, 0x25, 0x2E, 0x1C, 0xA6, 0xB4, 0xC6, 0xE8, 0xDD, 0x74, 0x1F, 0x4B, 0xBD, 0x8B, 0x8A],
    [0x70, 0x3E, 0xB5, 0x66, 0x48, 0x03, 0xF6, 0x0E, 0x61, 0x35, 0x57, 0xB9, 0x86, 0xC1, 0x1D, 0x9E],
    [0xE1, 0xF8, 0x98, 0x11, 0x69, 0xD9, 0x8E, 0x94, 0x9B, 0x1E, 0x87, 0xE9, 0xCE, 0x55, 0x28, 0xDF],
    [0x8C, 0xA1, 0x89, 0x0D, 0xBF, 0xE6, 0x42, 0x68, 0x41, 0x99, 0x2D, 0x0F, 0xB0, 0x54, 0xBB, 0x16]]

/-- The byte put in place of a byte. -/
def substitute (byte : UInt8) : UInt8 :=
  (substitutions.getD (byte.toNat / 16) []).getD (byte.toNat % 16) 0

/-- The product with `x` in the field of 256 elements. -/
def double (byte : UInt8) : UInt8 :=
  if byte < 0x80 then byte <<< 1 else (byte <<< 1) ^^^ 0x1B

/-- The product with `x + 1`. -/
def triple (byte : UInt8) : UInt8 := double byte ^^^ byte

namespace Word

def xor (left right : Word) : Word :=
  ⟨left.a ^^^ right.a, left.b ^^^ right.b, left.c ^^^ right.c, left.d ^^^ right.d⟩

def substituted (word : Word) : Word :=
  ⟨substitute word.a, substitute word.b, substitute word.c, substitute word.d⟩

/-- The bytes, the first one put last. -/
def rotated (word : Word) : Word := ⟨word.b, word.c, word.d, word.a⟩

/-- The column multiplied with the fixed matrix of the cipher. -/
def mixed (word : Word) : Word :=
  ⟨double word.a ^^^ triple word.b ^^^ word.c ^^^ word.d,
    word.a ^^^ double word.b ^^^ triple word.c ^^^ word.d,
    word.a ^^^ word.b ^^^ double word.c ^^^ triple word.d,
    triple word.a ^^^ word.b ^^^ word.c ^^^ double word.d⟩

def toList (word : Word) : List UInt8 := [word.a, word.b, word.c, word.d]

end Word

namespace Block

def xor (left right : Block) : Block :=
  ⟨left.first.xor right.first, left.second.xor right.second, left.third.xor right.third,
    left.fourth.xor right.fourth⟩

def substituted (block : Block) : Block :=
  ⟨block.first.substituted, block.second.substituted, block.third.substituted,
    block.fourth.substituted⟩

/-- The rows shifted by none, one, two and three columns. -/
def shifted (block : Block) : Block :=
  ⟨⟨block.first.a, block.second.b, block.third.c, block.fourth.d⟩,
    ⟨block.second.a, block.third.b, block.fourth.c, block.first.d⟩,
    ⟨block.third.a, block.fourth.b, block.first.c, block.second.d⟩,
    ⟨block.fourth.a, block.first.b, block.second.c, block.third.d⟩⟩

def mixed (block : Block) : Block :=
  ⟨block.first.mixed, block.second.mixed, block.third.mixed, block.fourth.mixed⟩

def toList (block : Block) : List UInt8 :=
  block.first.toList ++ block.second.toList ++ block.third.toList ++ block.fourth.toList

end Block

/-- The next word of the key schedule from the last one, for its place in the schedule. -/
def scheduled (place : Nat) (roundConstant : UInt8) (last : Word) : Word :=
  if place % 8 = 0 then last.rotated.substituted.xor ⟨roundConstant, 0, 0, 0⟩
  else if place % 8 = 4 then last.substituted
  else last

/-- Goes on with the key schedule for `count` words, given the last eight words, the latest one
last. -/
def extend (place : Nat) (roundConstant : UInt8) (last : List Word) : Nat → List Word
  | 0 => []
  | count + 1 =>
    match last with
    | oldest :: rest =>
      match rest.getLast? with
      | some latest =>
        let word := oldest.xor (scheduled place roundConstant latest)
        let nextConstant := if place % 8 = 0 then double roundConstant else roundConstant
        word :: extend (place + 1) nextConstant (rest ++ [word]) count
      | none => []
    | [] => []

/-- Groups of four bytes as words; bytes that are left over are dropped. -/
def toWords : List UInt8 → List Word
  | a :: b :: c :: d :: rest => ⟨a, b, c, d⟩ :: toWords rest
  | _ => []

/-- Groups of four words as blocks; words that are left over are dropped. -/
def toBlocks : List Word → List Block
  | a :: b :: c :: d :: rest => ⟨a, b, c, d⟩ :: toBlocks rest
  | _ => []

structure Key where
  bytes : List UInt8
  length_bytes : bytes.length = 32

/-- The key that bytes begin with. Bytes that are missing count as zero. -/
def Key.ofBytes (bytes : List UInt8) : Key :=
  ⟨(bytes ++ List.replicate 32 0).take 32, by simp⟩

/-- A key spread out into the keys of the fifteen rounds. -/
structure RoundKeys where
  blocks : List Block

def RoundKeys.ofKey (key : Key) : RoundKeys :=
  let words := toWords key.bytes
  ⟨toBlocks (words ++ extend 8 1 words 52)⟩

/-- The rounds after the first key was added. The last one does not mix. -/
def rounds (state : Block) : List Block → Block
  | [] => state
  | [last] => state.substituted.shifted.xor last
  | key :: rest => rounds (state.substituted.shifted.mixed.xor key) rest

def encrypt (keys : RoundKeys) (block : Block) : Block :=
  match keys.blocks with
  | [] => block
  | first :: rest => rounds (block.xor first) rest

end UmaGrant.Aes
