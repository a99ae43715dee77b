import UmaGrant.GrantError
import UmaGrant.Time.Instant
import UmaGrant.Token.AccessToken
import UmaGrant.Token.JoseHeader
import UmaGrant.Token.KeyRing
/-! # Signed tokens

A signed token carries its content in the open: a header, claims and a signature over both, each in
base64 and joined by dots. Verification takes the steps in a fixed order and reports the first that
fails: shape, header, key, algorithm, signature, claims, expiry, issuer, audience. A token counts
for a minute beyond its expiry.
-/

namespace UmaGrant

inductive TokenError where
  /-- A token is not accepted. -/
  | rejected (reason : String)
  /-- No key has the identifier in the header of a token. -/
  | unknownKey (id : String)
  /-- A key cannot be made or used. -/
  | keyFailure (detail : String)
deriving DecidableEq, Repr

namespace TokenError

def message : TokenError → String
  | rejected reason => "Token rejected: " ++ reason
  | unknownKey id => "Unknown signing key: " ++ id
  | keyFailure detail => "Signing key failure: " ++ detail

/-- The error of a token request that runs into it. -/
def toGrantError (error : TokenError) : GrantError :=
  match error with
  | rejected _ | unknownKey _ => .invalidToken error.message
  | keyFailure _ => .internal error.message

end TokenError

inductive TokenFault where
  /-- It is not three parts. -/
  | notAToken
  | base64 (fault : Base64Url.Fault)
  | json (error : JsonText.TextError)
  | noKeyId
  | wrongAlgorithm
  | wrongSignature
  | badClaims (error : ShapeError)
  | missingClaim (name : String)
  | expired
  | wrongIssuer
  | wrongAudience
  /-- No key has the identifier in the header. -/
  | unknownKey (id : String)
deriving DecidableEq, Repr

namespace TokenFault

def reason : TokenFault → String
  | notAToken => "InvalidToken"
  | base64 fault => "Base64 error: " ++ fault.message
  | json error => "JSON error: " ++ error.message
  | noKeyId => "token header has no kid"
  | wrongAlgorithm => "InvalidAlgorithm"
  | wrongSignature => "InvalidSignature"
  | badClaims error => "JSON error: " ++ error.message
  | missingClaim name => "Missing required claim: " ++ name
  | expired => "ExpiredSignature"
  | wrongIssuer => "InvalidIssuer"
  | wrongAudience => "InvalidAudience"
  | unknownKey id => id

/-- The error of a token request that shows the token. -/
def toGrantError : TokenFault → GrantError
  | unknownKey id => TokenError.toGrantError (.unknownKey id)
  | other => TokenError.toGrantError (.rejected other.reason)

end TokenFault

/-- The claims of a signed token. Times are seconds since the start of 1970. -/
structure TokenClaims where
  issuer : String
  audience : String
  expiry : Int
  issuedAt : Int
  id : String
  permissions : List Permission
  contract : Option String
deriving DecidableEq, Repr

namespace TokenClaims

/-- The members of the JSON form, in the order in which they are signed. -/
def members (claims : TokenClaims) : List (String × Json) :=
  [("iss", .string claims.issuer), ("aud", .string claims.audience), ("exp", .int claims.expiry),
    ("iat", .int claims.issuedAt), ("jti", .string claims.id),
    ("permissions", Permission.listToJson claims.permissions)] ++
      optionalMember "contract" (claims.contract.map .string)

def toJson (claims : TokenClaims) : Json := .ofMembers claims.members

def fields : Fields TokenClaims :=
  Fields.pure TokenClaims.mk
    |>.apply (.required "iss" Shape.string)
    |>.apply (.required "aud" Shape.string)
    |>.apply (.required "exp" Shape.signed)
    |>.apply (.required "iat" Shape.signed)
    |>.apply (.required "jti" Shape.string)
    |>.apply (.required "permissions" Permission.listShape)
    |>.apply (.optional "contract" Shape.string)

def shape : Shape TokenClaims := fields.read .json "UmaTokenClaims"

end TokenClaims

/-- Who issues signed tokens, for whom and for how long. -/
structure SignedTokens where
  issuer : String
  audience : String
  lifetime : Lifetime
deriving DecidableEq, Repr

namespace SignedTokens

/-- The audience of tokens where none is set. -/
def defaultAudience : String := "solid"

/-- The lifetime of tokens where none is set: half an hour. -/
def defaultLifetime : Lifetime := Lifetime.minutes 30

/-- How long a token counts beyond its expiry, in seconds. -/
def leeway : Int := 60

/-- A part of a token: the base64 form of compact JSON. -/
def part (members : List (String × Json)) : List UInt8 :=
  Base64Url.encode (Utf8.encode (Json.compact (.object members)))

/-- The header of a token that a key signs. -/
def headerMembers (key : SigningKey) : List (String × Json) :=
  [("typ", .string "JWT"), ("alg", .string key.algorithm.name), ("kid", .string key.id)]

def dot : UInt8 := 46

/-- Signs claims with the current key of a ring. -/
def sign (ring : KeyRing) (number : Nat) (claims : TokenClaims) : IssuedToken × KeyRing :=
  let text := part (headerMembers ring.current) ++ dot :: part claims.members
  let (signature, key) := ring.current.sign ring.scheme number text
  let bytes := text ++ dot :: Base64Url.encode signature
  (⟨String.ofList (bytes.map fun byte => Char.ofNat byte.toNat), bearer⟩,
    { ring with current := key })

/-- The claims of a token for a payload. Fails where the date of its expiry cannot be
represented. -/
def claimsFor? (tokens : SignedTokens) (now : Instant) (id : String) (payload : AccessToken) :
    Option TokenClaims :=
  (now.after? tokens.lifetime).map fun expiresAt =>
    ⟨tokens.issuer, tokens.audience, expiresAt.unixSeconds, now.unixSeconds, id,
      payload.permissions, payload.contract⟩

/-- Issues a token; takes a number for its identifier and one for its signature. -/
def issue? (tokens : SignedTokens) (ring : KeyRing) (now : Instant) (idNumber number : Nat)
    (payload : AccessToken) : Option (IssuedToken × KeyRing) :=
  (tokens.claimsFor? now (Fresh.identifier idNumber) payload).map (sign ring number)

/-- Splits bytes at the last dot. -/
def splitLastDot? (bytes : List UInt8) : Option (List UInt8 × List UInt8) :=
  let backwards := bytes.reverse
  match backwards.dropWhile (· ≠ dot) with
  | [] => none
  | _ :: before => some (before.reverse, (backwards.takeWhile (· ≠ dot)).reverse)

/-- The parts of a token, at its last two dots. -/
structure Parts where
  header : List UInt8
  payload : List UInt8
  signature : List UInt8

namespace Parts

def signedText (parts : Parts) : List UInt8 := parts.header ++ dot :: parts.payload

def ofToken? (token : String) : Option Parts := do
  let (text, signature) ← splitLastDot? (Utf8.ofString token)
  let (header, payload) ← splitLastDot? text
  pure ⟨header, payload, signature⟩

end Parts

def decodePart (part : List UInt8) : Except TokenFault (List UInt8) :=
  match Base64Url.decode part with
  | .ok bytes => .ok bytes
  | .error fault => .error (.base64 fault)

def readHeader (parts : Parts) : Except TokenFault JoseHeader := do
  let bytes ← decodePart parts.header
  match JoseHeader.parse bytes with
  | .ok header => .ok header
  | .error error => .error (.json error)

def readClaims (parts : Parts) : Except TokenFault TokenClaims := do
  let bytes ← decodePart parts.payload
  match JsonText.readBytes (JsonText.leadingValue 0) bytes with
  | .error error => .error (.json error)
  | .ok json =>
    match TokenClaims.shape json with
    | .ok claims => .ok claims
    | .error error => .error (.badClaims error)

/-- The algorithm that a header has to name for a key. -/
def headerAlgorithm : SigningAlgorithm → HeaderAlgorithm
  | .rs256 => .rs256
  | .rs384 => .rs384
  | .es384 => .es384

/-- Checks claims against the clock and against whom the token is for. An expiry before the start
of 1970 does not count as one. -/
def checkClaims (tokens : SignedTokens) (now : Instant) (claims : TokenClaims) :
    Except TokenFault Unit :=
  if claims.expiry < 0 then .error (.missingClaim "exp")
  else if claims.expiry < now.unixSeconds - leeway then .error .expired
  else if claims.issuer ≠ tokens.issuer then .error .wrongIssuer
  else if claims.audience ≠ tokens.audience then .error .wrongAudience
  else .ok ()

def verify (tokens : SignedTokens) (ring : KeyRing) (now : Instant) (token : String) :
    Except TokenFault TokenClaims := do
  match Parts.ofToken? token with
  | none => .error .notAToken
  | some parts =>
    let header ← readHeader parts
    match header.keyId with
    | none => .error .noKeyId
    | some id =>
      match ring.find? id with
      | none => .error (.unknownKey id)
      | some key =>
        if header.algorithm ≠ headerAlgorithm key.algorithm then .error .wrongAlgorithm
        else
          let signature ← decodePart parts.signature
          if ring.scheme.verifies key ⟨parts.signedText, signature⟩ then
            let claims ← readClaims parts
            checkClaims tokens now claims
            .ok claims
          else .error .wrongSignature

def redeem (tokens : SignedTokens) (ring : KeyRing) (now : Instant) (token : String) :
    Except GrantError AccessToken :=
  match tokens.verify ring now token with
  | .ok claims => .ok ⟨claims.permissions, claims.contract⟩
  | .error fault => .error fault.toGrantError

end SignedTokens

end UmaGrant
