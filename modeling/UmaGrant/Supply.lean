import UmaGrant.Text.Hex
import UmaGrant.Cipher.Gcm
/-! # Fresh values

Identifiers, tokens, nonces and keys have to be new. A supply is the source of all of them: it
hands out one number after the other, and each kind of fresh value is a written form of such a
number. The text forms of different numbers differ; a nonce and a byte string tell numbers apart up
to their width.
-/

namespace UmaGrant

/-- A source of fresh values: the next number that it hands out. -/
structure Supply where
  next : Nat
deriving DecidableEq, Repr

namespace Supply

/-- Takes a number that was not handed out before. -/
def draw (supply : Supply) : Nat × Supply := (supply.next, ⟨supply.next + 1⟩)

end Supply

namespace Fresh

/-- An identifier in the usual grouping of 32 hexadecimal digits. -/
def identifier (number : Nat) : String :=
  let digits := Hex.ofNat 32 number
  let group (start count : Nat) := (digits.drop start).take count
  String.ofList
    (group 0 8 ++ '-' :: group 8 4 ++ '-' :: group 12 4 ++ '-' :: group 16 4 ++ '-' :: digits.drop 20)

/-- A credential of 64 hexadecimal digits. -/
def credential (number : Nat) : String := String.ofList (Hex.ofNat 64 number)

def nonce (number : Nat) : Gcm.Nonce :=
  ⟨Gcm.counterWord (number / Nat.pow 2 64), Gcm.counterWord (number / Nat.pow 2 32),
    Gcm.counterWord number⟩

/-- So many bytes, which end with those of the number. -/
def bytes (count number : Nat) : List UInt8 := Gcm.bigEndian count number

end Fresh

end UmaGrant
