import UmaGrant.Json.Parser
import UmaGrant.Json.Shape
import UmaGrant.Token.KeyParameters
/-! # Headers of signed tokens

The header of a signed token is a JSON object that names the algorithm and the key. It is read
member by member straight from its text, so that the first thing wrong with it is reported at its
place. Members without a meaning here must be strings.
-/

namespace UmaGrant

inductive HeaderAlgorithm where
  | hs256
  | hs384
  | hs512
  | es256
  | es384
  | rs256
  | rs384
  | rs512
  | ps256
  | ps384
  | ps512
  | edDsa
deriving DecidableEq, Repr

namespace HeaderAlgorithm

def names : List (String × HeaderAlgorithm) :=
  [("HS256", hs256), ("HS384", hs384), ("HS512", hs512), ("ES256", es256), ("ES384", es384),
    ("RS256", rs256), ("RS384", rs384), ("RS512", rs512), ("PS256", ps256), ("PS384", ps384),
    ("PS512", ps512), ("EdDSA", edDsa)]

end HeaderAlgorithm

/-- What a header says that matters here. -/
structure JoseHeader where
  algorithm : HeaderAlgorithm
  keyId : Option String
deriving DecidableEq, Repr

namespace JoseHeader

open JsonText KeyParameters

/-- Stops with a complaint about content that has been read. -/
def complain {α : Type} (error : ShapeError) (rest : List Char) : Except Stop α :=
  stopAt (.content error.message) rest

/-- Stops at a value of the wrong kind: behind it, or in front of an array or an object. -/
def wrongKind {α : Type} (expected : String) (chars : List Char) : Except Stop α :=
  match chars with
  | [] => stopAt .endInValue []
  | '[' :: _ => complain (.wrongType .sequence expected) chars
  | '\x7b' :: _ => complain (.wrongType .map expected) chars
  | _ => do
    let (json, rest) ← leadingValue 1 chars
    complain (.wrongType (.of json) expected) rest

def text : Reader String
  | chars =>
    match skipBlanks chars with
    | '"' :: rest => stringRest rest
    | other => wrongKind "a string" other

def optionalText : Reader (Option String)
  | chars =>
    match skipBlanks chars with
    | 'n' :: rest => literal none ['u', 'l', 'l'] rest
    | other => do
      let (value, rest) ← text other
      .ok (some value, rest)

/-- Reads the texts of a list, after its bracket or a comma; `fuel` bounds them. -/
def textItems : Nat → Reader Unit
  | 0, chars => stopAt .endInList chars
  | fuel + 1, chars => do
    let (_, rest) ← text chars
    match skipBlanks rest with
    | [] => stopAt .endInList []
    | ']' :: rest => .ok ((), rest)
    | ',' :: rest =>
      match skipBlanks rest with
      | [] => stopAt .endInValue []
      | ']' :: rest => stopAfter .trailingComma (']' :: rest)
      | other => textItems fuel other
    | other => stopAfter .expectedListEnd other

/-- Reads a list of strings or null. -/
def optionalTexts : Reader Unit
  | chars =>
    match skipBlanks chars with
    | 'n' :: rest => literal () ['u', 'l', 'l'] rest
    | '[' :: rest =>
      match skipBlanks rest with
      | [] => stopAt .endInList []
      | ']' :: rest => .ok ((), rest)
      | other => textItems (other.length + 1) other
    | other => wrongKind "a sequence" other

/-- Reads a key or null. A key is examined when its object has been read. -/
def optionalKey : Reader Unit
  | chars =>
    match skipBlanks chars with
    | 'n' :: rest => literal () ['u', 'l', 'l'] rest
    | '\x7b' :: rest => do
      let (members, rest) ← leadingMembers 2 rest
      match checkKey members with
      | .ok () => .ok ((), rest)
      | .error error => complain error rest
    | other => wrongKind "struct Jwk" other

/-- Reads the name of an algorithm, alone or as the only member of an object. -/
def algorithmName : Reader HeaderAlgorithm
  | chars =>
    let named (name : String) (rest : List Char) : Except Stop HeaderAlgorithm :=
      match Shape.variantOf HeaderAlgorithm.names name with
      | .ok algorithm => .ok algorithm
      | .error error => complain error rest
    match skipBlanks chars with
    | [] => stopAt .endInValue []
    | '"' :: rest => do
      let (name, rest) ← stringRest rest
      let algorithm ← named name rest
      .ok (algorithm, rest)
    | '\x7b' :: rest =>
      match skipBlanks rest with
      | [] => stopAt .endInObject []
      | '\x7d' :: rest => stopAfter .expectedValue ('\x7d' :: rest)
      | '"' :: rest => do
        let (name, rest) ← stringRest rest
        let algorithm ← named name rest
        match skipBlanks rest with
        | [] => stopAt .endInObject []
        | ':' :: rest =>
          match skipBlanks rest with
          | 'n' :: rest => do
            let (_, rest) ← literal () ['u', 'l', 'l'] rest
            match skipBlanks rest with
            | '\x7d' :: rest => .ok (algorithm, rest)
            | [] => stopAt .endInObject []
            | other => stopAt .expectedValue other
          | other => wrongKind "unit" other
        | other => stopAfter .expectedColon other
      | other => stopAfter .nameNotString other
    | other => stopAfter .expectedValue other

structure Draft where
  algorithm : Option HeaderAlgorithm
  keyId : Option String
  /-- The names of the members that have a meaning. -/
  seen : List String
  /-- The first other member that is not a string, in no order that matters. -/
  stray : Option Json

def textMembers : List String :=
  ["typ", "cty", "jku", "kid", "x5u", "x5t", "x5t#S256", "enc", "zip", "url", "nonce"]

def listMembers : List String := ["x5c", "crit"]

def memberValue (header : Draft) (name : String) (chars : List Char) :
    Except Stop (Draft × List Char) :=
  let seen := name :: header.seen
  if name = "alg" then do
    let (value, rest) ← algorithmName chars
    .ok ({ header with algorithm := some value, seen }, rest)
  else if textMembers.contains name then do
    let (value, rest) ← optionalText chars
    let keyId := if name = "kid" then value else header.keyId
    .ok ({ header with keyId, seen }, rest)
  else if listMembers.contains name then do
    let ((), rest) ← optionalTexts chars
    .ok ({ header with seen }, rest)
  else if name = "jwk" then do
    let ((), rest) ← optionalKey chars
    .ok ({ header with seen }, rest)
  else do
    let (value, rest) ← leadingValue 1 chars
    let stray :=
      match value with
      | .string _ => header.stray
      | other => header.stray <|> some other
    .ok ({ header with stray }, rest)

/-- The header of all its members. -/
def finish (header : Draft) (rest : List Char) : Except Stop (JoseHeader × List Char) :=
  match header.algorithm, header.stray with
  | none, _ => complain (.missingField "alg") rest
  | some _, some json => complain (.wrongType (.of json) "a string") rest
  | some algorithm, none => .ok (⟨algorithm, header.keyId⟩, rest)

/-- Reads members up to the closing brace, at most `fuel` of them. -/
def members (header : Draft) : Nat → Reader JoseHeader
  | 0, chars => stopAt .endInObject chars
  | fuel + 1, chars =>
    match chars with
    | '"' :: rest => do
      let (name, rest) ← stringRest rest
      if header.seen.contains name then
        complain (.malformed ("duplicate field `" ++ name ++ "`")) (skipBlanks rest)
      else
        match skipBlanks rest with
        | [] => stopAt .endInObject []
        | ':' :: rest => do
          let (header, rest) ← memberValue header name rest
          match skipBlanks rest with
          | [] => stopAt .endInObject []
          | '\x7d' :: rest => finish header rest
          | ',' :: rest =>
            match skipBlanks rest with
            | [] => stopAt .endInValue []
            | '\x7d' :: rest => stopAfter .trailingComma ('\x7d' :: rest)
            | '"' :: rest => members header fuel ('"' :: rest)
            | other => stopAfter .nameNotString other
          | other => stopAfter .expectedObjectEnd other
        | other => stopAfter .expectedColon other
    | other => stopAfter .nameNotString other

def reader : Reader JoseHeader
  | chars =>
    match skipBlanks chars with
    | [] => stopAt .endInValue []
    | '\x7b' :: rest =>
      match skipBlanks rest with
      | [] => stopAt .endInObject []
      | '\x7d' :: rest => finish ⟨none, none, [], none⟩ rest
      | other => members ⟨none, none, [], none⟩ (other.length + 1) other
    | other => wrongKind "struct Header" other

def parse (bytes : List UInt8) : Except TextError JoseHeader := readBytes reader bytes

end JoseHeader

end UmaGrant
