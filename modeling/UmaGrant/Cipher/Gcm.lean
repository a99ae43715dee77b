import UmaGrant.Cipher.Aes
/-! # Authenticated encryption in Galois counter mode

The text is added to a stream that the block cipher makes from a nonce, and a tag proves that
whoever made the result had the key. There is no associated data. Decryption refuses every tag but the
one that encryption would have given.
-/

namespace UmaGrant.Gcm

open Aes (Block Word RoundKeys)

structure Nonce where
  first : Word
  second : Word
  third : Word
deriving DecidableEq, Repr

namespace Nonce

def toList (nonce : Nonce) : List UInt8 :=
  nonce.first.toList ++ nonce.second.toList ++ nonce.third.toList

/-- The nonce of exactly twelve bytes. -/
def ofList? (bytes : List UInt8) : Option Nonce :=
  match Aes.toWords bytes with
  | [first, second, third] => if bytes.length = 12 then some ⟨first, second, third⟩ else none
  | _ => none

end Nonce

/-- The bytes of a number, the highest first. -/
def bigEndian (count value : Nat) : List UInt8 :=
  match count with
  | 0 => []
  | count + 1 => (value / Nat.pow 256 count).toUInt8 :: bigEndian count value

/-- The number that bytes stand for, the highest first. -/
def toNat (bytes : List UInt8) : Nat := bytes.foldl (fun total byte => total * 256 + byte.toNat) 0

/-- A number below `2 ^ 32` as a word. -/
def counterWord (count : Nat) : Word :=
  ⟨(count / 16777216).toUInt8, (count / 65536).toUInt8, (count / 256).toUInt8, count.toUInt8⟩

def counterBlock (nonce : Nonce) (count : Nat) : Block :=
  ⟨nonce.first, nonce.second, nonce.third, counterWord count⟩

/-- Bytes added to a stream from a counter on, a block at a time; `fuel` bounds the blocks. -/
def addStream (keys : RoundKeys) (nonce : Nonce) (count : Nat) :
    Nat → List UInt8 → List UInt8
  | 0, _ => []
  | _ + 1, [] => []
  | fuel + 1, bytes =>
    let stream := (Aes.encrypt keys (counterBlock nonce count)).toList
    List.zipWith (· ^^^ ·) bytes stream ++ addStream keys nonce (count + 1) fuel (bytes.drop 16)

/-- A text added to the stream of a nonce. Doing it twice gives the text back. -/
def crypt (keys : RoundKeys) (nonce : Nonce) (bytes : List UInt8) : List UInt8 :=
  addStream keys nonce 2 (bytes.length + 1) bytes

/-! ## The tag -/

/-- One step of a product in the field of `2 ^ 128` elements, whose bits count from the left. -/
def halve (value : Nat) : Nat :=
  if value % 2 = 1 then (value / 2) ^^^ (0xE1 * Nat.pow 2 120) else value / 2

/-- Adds up those shifts of one factor that the bits of the other one select, from its bit `bits`
downwards. -/
def multiplyFrom (left : Nat) (shifted total : Nat) : Nat → Nat
  | 0 => total
  | bits + 1 =>
    multiplyFrom left (halve shifted) (if left.testBit bits then total ^^^ shifted else total) bits

def multiply (left right : Nat) : Nat := multiplyFrom left right 0 128

/-- The hash of blocks, the last of which is filled up with zeros; `fuel` bounds the blocks. -/
def hashBlocks (subkey total : Nat) : Nat → List UInt8 → Nat
  | 0, _ => total
  | _ + 1, [] => total
  | fuel + 1, bytes =>
    let chunk := bytes.take 16
    let block := toNat (chunk ++ List.replicate (16 - chunk.length) 0)
    hashBlocks subkey (multiply (total ^^^ block) subkey) fuel (bytes.drop 16)

def tag (keys : RoundKeys) (nonce : Nonce) (cipherText : List UInt8) : List UInt8 :=
  let zero : Word := ⟨0, 0, 0, 0⟩
  let subkey := toNat (Aes.encrypt keys ⟨zero, zero, zero, zero⟩).toList
  let hashed := hashBlocks subkey 0 (cipherText.length + 1) cipherText
  let product := multiply (hashed ^^^ (cipherText.length * 8)) subkey
  let mask := toNat (Aes.encrypt keys (counterBlock nonce 1)).toList
  bigEndian 16 (product ^^^ mask)

/-- Encrypts a text; gives the tag and the encrypted text. -/
def encrypt (keys : RoundKeys) (nonce : Nonce) (text : List UInt8) : List UInt8 × List UInt8 :=
  let cipherText := crypt keys nonce text
  (tag keys nonce cipherText, cipherText)

/-- Decrypts a text if the tag is right. -/
def decrypt? (keys : RoundKeys) (nonce : Nonce) (given cipherText : List UInt8) :
    Option (List UInt8) :=
  if tag keys nonce cipherText = given then some (crypt keys nonce cipherText) else none

end UmaGrant.Gcm
