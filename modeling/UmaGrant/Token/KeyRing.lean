import UmaGrant.Json.Shape
import UmaGrant.Supply
import UmaGrant.Text.Base64Url
/-! # Signing keys

A ring holds the key that signs and the keys that signed before it, as many of them as it is told
to keep. Each rotation brings a new key to the front; a key that falls off the end verifies nothing
any more.

How keys sign is up to a signature scheme, of which only this is taken for granted: a key verifies what
it has signed, and signing does not change what else it verifies. In the ideal scheme that is nothing.
-/

namespace UmaGrant

/-- The algorithms with which tokens are signed. -/
inductive SigningAlgorithm where
  | rs256
  | rs384
  | es384
deriving DecidableEq, Repr

namespace SigningAlgorithm

def name : SigningAlgorithm → String
  | rs256 => "RS256"
  | rs384 => "RS384"
  | es384 => "ES384"

def names : List (String × SigningAlgorithm) :=
  [("RS256", rs256), ("RS384", rs384), ("ES384", es384)]

def shape (dialect : Dialect) : Shape SigningAlgorithm := Shape.variant dialect names

/-- The length of a signature in bytes. -/
def signatureSize : SigningAlgorithm → Nat
  | rs256 | rs384 => 256
  | es384 => 96

end SigningAlgorithm

/-- The public numbers of a key. -/
inductive KeyNumbers where
  | rsa (modulus exponent : String)
  | curve (name x y : String)
deriving DecidableEq, Repr

/-- A public key as it is published. -/
structure PublicKey where
  id : String
  use : String
  algorithm : String
  numbers : KeyNumbers
deriving DecidableEq, Repr

namespace PublicKey

/-- The members of the numbers of a key. -/
def numberMembers : KeyNumbers → List (String × Json)
  | .rsa modulus exponent =>
    [("kty", .string "RSA"), ("n", .string modulus), ("e", .string exponent)]
  | .curve name x y =>
    [("kty", .string "EC"), ("crv", .string name), ("x", .string x), ("y", .string y)]

/-- The JSON form: the numbers stand among the other members. -/
def toJson (key : PublicKey) : Json :=
  .ofMembers <|
    [("kid", .string key.id), ("use", .string key.use), ("alg", .string key.algorithm)] ++
      numberMembers key.numbers

inductive NumberKind where
  | rsa
  | curve
deriving DecidableEq, Repr

/-- The kind that a `kty` member names, by name or by place. -/
def kindShape : Shape NumberKind
  | .number (.integer 0) => .ok .rsa
  | .number (.integer 1) => .ok .curve
  | .number (.integer value) =>
    if value < 0 then .error (.wrongType (.integer value) "variant identifier")
    else .error (.wrongValue (.integer value) "variant index 0 <= i < 2")
  | .string name => Shape.variantOf [("RSA", NumberKind.rsa), ("EC", NumberKind.curve)] name
  | json => Shape.mismatch "variant identifier" json

/-- Reads the numbers from the members that are not about the key as a whole. -/
def numbersShape : Shape KeyNumbers
  | .object members => do
    match Dict.lookup "kty" members with
    | none => .error (.missingField "kty")
    | some named =>
      match ← kindShape named with
      | .rsa =>
        (Fields.pure KeyNumbers.rsa
          |>.apply (.required "n" Shape.string)
          |>.apply (.required "e" Shape.string)).read .json "Rsa" (.object members)
      | .curve =>
        (Fields.pure KeyNumbers.curve
          |>.apply (.required "crv" Shape.string)
          |>.apply (.required "x" Shape.string)
          |>.apply (.required "y" Shape.string)).read .json "Ec" (.object members)
  | json => Shape.mismatch "struct Jwk" json

/-- Reads the JSON form, which has to be an object. The numbers are read last. -/
def shape : Shape PublicKey
  | .object members => do
    let (id, use, algorithm) ←
      (Fields.pure (fun id use algorithm => (id, use, algorithm))
        |>.apply (.required "kid" Shape.string)
        |>.apply (.required "use" Shape.string)
        |>.apply (.required "alg" Shape.string)).read .json "Jwk" (.object members)
    let numbers ← numbersShape (.object members)
    .ok ⟨id, use, algorithm, numbers⟩
  | json => Shape.mismatch "struct Jwk" json

end PublicKey

/-- A set of public keys as it is published. -/
structure PublicKeys where
  keys : List PublicKey
deriving DecidableEq, Repr

namespace PublicKeys

def toJson (set : PublicKeys) : Json := .ofMembers [("keys", .array (set.keys.map PublicKey.toJson))]

def fields : Fields PublicKeys :=
  Fields.pure PublicKeys.mk |>.apply (.required "keys" (Shape.list PublicKey.shape))

def shape : Shape PublicKeys := fields.read .json "Jwks"

end PublicKeys

/-- A text and a signature for it. -/
structure SignedText where
  text : List UInt8
  signature : List UInt8
deriving DecidableEq, Repr

/-- A signing key, with all that it has signed. -/
structure SigningKey where
  id : String
  algorithm : SigningAlgorithm
  numbers : KeyNumbers
  signed : List SignedText
deriving DecidableEq, Repr

namespace SigningKey

/-- The public numbers of a fresh key. -/
def freshNumbers (algorithm : SigningAlgorithm) (number : Nat) : KeyNumbers :=
  match algorithm with
  | .rs256 | .rs384 => .rsa (Base64Url.encodeText (1 :: Fresh.bytes 255 number)) "AQAB"
  | .es384 =>
    .curve "P-384" (Base64Url.encodeText (Fresh.bytes 48 number))
      (Base64Url.encodeText (Fresh.bytes 48 (number + 1)))

def fresh (algorithm : SigningAlgorithm) (number : Nat) : SigningKey :=
  ⟨Fresh.identifier number, algorithm, freshNumbers algorithm number, []⟩

/-- The key once it has signed one more text. -/
def record (key : SigningKey) (entry : SignedText) : SigningKey :=
  { key with signed := entry :: key.signed }

def toPublic (key : SigningKey) : PublicKey := ⟨key.id, "sig", key.algorithm.name, key.numbers⟩

end SigningKey

/-- How keys sign and verify. A scheme may accept more than one signature for a text. -/
structure SignatureScheme where
  /-- The signature of a key for a text. A scheme may make it from a fresh number. -/
  sign : SigningKey → Nat → List UInt8 → List UInt8
  /-- Whether a signature for a text is accepted under a key. -/
  verifies : SigningKey → SignedText → Bool
  /-- A key verifies what it has signed, -/
  verifies_signed : ∀ key number text,
    verifies (key.record ⟨text, sign key number text⟩) ⟨text, sign key number text⟩ = true
  /-- and what it verified before. -/
  verifies_onward : ∀ key made entry,
    verifies key entry = true → verifies (key.record made) entry = true
  /-- About other texts it goes on to say the same. -/
  verifies_other : ∀ key made entry, entry.text ≠ made.text →
    verifies (key.record made) entry = verifies key entry

namespace SignatureScheme

/-- Signatures are fresh bytes, and a key verifies exactly what it has signed. -/
def ideal : SignatureScheme where
  sign key number _ := Fresh.bytes key.algorithm.signatureSize number
  verifies key entry := key.signed.contains entry
  verifies_signed key number text := List.contains_iff_mem.mpr List.mem_cons_self
  verifies_onward key made entry verified :=
    List.contains_iff_mem.mpr (List.mem_cons_of_mem made (List.contains_iff_mem.mp verified))
  verifies_other key made entry other := by
    have differ : entry ≠ made := fun same => other (congrArg SignedText.text same)
    simp [SigningKey.record, differ]

end SignatureScheme

def SigningKey.sign (key : SigningKey) (scheme : SignatureScheme) (number : Nat)
    (text : List UInt8) : List UInt8 × SigningKey :=
  let signature := scheme.sign key number text
  (signature, key.record ⟨text, signature⟩)

/-- The current key and the ones before it, the latest first. -/
structure KeyRing where
  scheme : SignatureScheme
  algorithm : SigningAlgorithm
  /-- How many earlier keys are kept. -/
  keep : Nat
  current : SigningKey
  previous : List SigningKey

namespace KeyRing

/-- How many earlier keys are kept where nothing is set. -/
def defaultKeep : Nat := 3

/-- A ring with one fresh key. -/
def fresh (algorithm : SigningAlgorithm) (keep number : Nat)
    (scheme : SignatureScheme := .ideal) : KeyRing :=
  ⟨scheme, algorithm, keep, .fresh algorithm number, []⟩

/-- All keys, the current one first. -/
def keys (ring : KeyRing) : List SigningKey := ring.current :: ring.previous

def find? (ring : KeyRing) (id : String) : Option SigningKey := ring.keys.find? (·.id = id)

/-- Makes a fresh key the current one. -/
def rotate (ring : KeyRing) (number : Nat) : KeyRing :=
  { ring with
    current := .fresh ring.algorithm number
    previous := (ring.current :: ring.previous).take ring.keep }

def toPublic (ring : KeyRing) : PublicKeys := ⟨ring.keys.map SigningKey.toPublic⟩

end KeyRing

end UmaGrant
