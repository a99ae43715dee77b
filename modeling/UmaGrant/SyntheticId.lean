import UmaGrant.Cipher.Gcm
import UmaGrant.Text.Hex
import UmaGrant.Text.Utf8
/-! # Synthetic identifiers

The server shows a resource to other servers under a synthetic identifier: the real one, encrypted
with a key that only the server has. It is written `nonce:tag:text` in hexadecimal. Reading one
back needs no table and fails for everything that was not made with the key.
-/

namespace UmaGrant

/-- Writes and reads synthetic identifiers with a key. -/
structure IdCodec where
  key : Aes.Key

namespace IdCodec

/-- The codec whose key some bytes begin with. -/
def ofKey (bytes : List UInt8) : IdCodec := ⟨.ofBytes bytes⟩

def keys (codec : IdCodec) : Aes.RoundKeys := .ofKey codec.key

/-- The synthetic identifier of a resource under a nonce. -/
def encode (codec : IdCodec) (nonce : Gcm.Nonce) (id : String) : String :=
  let (tag, cipherText) := Gcm.encrypt codec.keys nonce (Utf8.ofString id)
  String.ofList
    (Hex.encode nonce.toList ++ ':' :: Hex.encode tag ++ ':' :: Hex.encode cipherText)

/-- The parts of a text between colons. -/
def parts : List Char → List (List Char)
  | [] => [[]]
  | char :: rest =>
    if char = ':' then [] :: parts rest
    else
      match parts rest with
      | part :: more => (char :: part) :: more
      | [] => [[char]]

/-- The real identifier behind a synthetic one. -/
def decode? (codec : IdCodec) (id : String) : Option String :=
  match parts id.toList with
  | [nonceText, tagText, cipherTextHex] => do
    let nonce ← (Hex.decode? nonceText).bind Gcm.Nonce.ofList?
    let tag ← Hex.decode? tagText
    let cipherText ← Hex.decode? cipherTextHex
    if tag.length = 16 then
      let bytes ← Gcm.decrypt? codec.keys nonce tag cipherText
      Utf8.toString? bytes
    else none
  | _ => none

end IdCodec

end UmaGrant
