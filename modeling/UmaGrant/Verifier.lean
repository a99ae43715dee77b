import UmaGrant.Claim
import UmaGrant.Json.Parser
import UmaGrant.Negotiation.Request
import UmaGrant.Token.Factory
/-! # Verifiers of claim tokens

A verifier turns a claim token into the claims that it proves, or says why it proves none.
Verification of an access token asks the factory that has issued it, which may drop the token then
if it has expired.
-/

namespace UmaGrant

inductive Verifier where
  /-- Takes WebIDs and JSON objects of claims without proof. -/
  | trusting
  /-- Leaves a token to the verifier for its format. -/
  | byFormat (routes : List (String × Verifier))
  /-- Takes access tokens of a token factory. -/
  | accessTokens (factory : String)
  /-- Knows what some tokens prove, whatever their format, and has one error for all others. -/
  | known (tokens : List (String × Except GrantError Claims)) (unknown : GrantError)

/-- What is not known to accept anything accepts nothing. -/
instance : Inhabited Verifier := ⟨.byFormat []⟩

namespace Verifier

/-- The error for a format that a verifier cannot handle. -/
def unsupported (format : String) : GrantError :=
  .invalidRequest ("Unsupported claim token format: " ++ format)

/-- The claims of a JSON text that is an object. -/
def claimsOfText (text : String) : Except GrantError Claims :=
  match JsonText.parse text with
  | .ok (.object members) => .ok ⟨members⟩
  | .ok _ => .error (.verification "JSON claim token must be an object")
  | .error error =>
    .error (.verification ("JSON claim token is not valid JSON: " ++ error.message))

/-- The claims that are taken without proof. -/
def trust (token : ClaimToken) : Except GrantError Claims :=
  if token.format = ClaimFormat.bareWebId then
    .ok (Dict.empty.insert ClaimType.webId (.string token.token))
  else if token.format = ClaimFormat.bareJson then claimsOfText token.token
  else .error (unsupported token.format)

/-- What an access token that has been redeemed proves. -/
def accessClaims : Except GrantError AccessToken → Except GrantError Claims
  | .ok payload =>
    .ok (Dict.empty.insert ClaimType.access (Permission.listToJson payload.permissions))
  | .error (.invalidToken detail) => .error (.verification detail)
  | .error other => .error other

mutual

/-- The claims that a token proves, and the factories afterwards. -/
def verify (now : Instant) (token : ClaimToken) (factories : TokenFactories) :
    Verifier → Except GrantError Claims × TokenFactories
  | trusting => (trust token, factories)
  | byFormat routes =>
    match verifyRouted now token factories routes with
    | some answer => answer
    | none => (.error (unsupported token.format), factories)
  | accessTokens factory =>
    let (payload, factories) := factories.redeem factory now token.token
    (accessClaims payload, factories)
  | known tokens unknown =>
    ((Dict.lookup token.token tokens).getD (.error unknown), factories)

def verifyRouted (now : Instant) (token : ClaimToken) (factories : TokenFactories) :
    List (String × Verifier) → Option (Except GrantError Claims × TokenFactories)
  | [] => none
  | (format, verifier) :: rest =>
    if format = token.format then some (verify now token factories verifier)
    else verifyRouted now token factories rest

end

/-- Adds a verifier for a format to others, in place of one for the same format. -/
def register (routes : List (String × Verifier)) (format : String) (verifier : Verifier) :
    List (String × Verifier) :=
  Dict.place format verifier routes

def supports (routes : List (String × Verifier)) (format : String) : Bool :=
  (Dict.lookup format routes).isSome

end Verifier

end UmaGrant
