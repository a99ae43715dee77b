import UmaGrant.GrantError
import UmaGrant.Permission
/-! # Token requests

A token request opens a negotiation by naming permissions, or goes on with one by naming its ticket.
Either way it may push claim tokens: a single one, whose format stands beside it, or a list of
tokens that carry their formats.
-/

namespace UmaGrant

structure ClaimToken where
  token : String
  format : String
deriving DecidableEq, Repr

namespace ClaimToken

def toJson (token : ClaimToken) : Json :=
  .ofMembers
    [("claim_token", .string token.token), ("claim_token_format", .string token.format)]

def fields : Fields ClaimToken :=
  Fields.pure ClaimToken.mk
    |>.apply (.required "claim_token" Shape.string)
    |>.apply (.required "claim_token_format" Shape.string)

def shape : Shape ClaimToken := fields.read .json "ClaimToken"

end ClaimToken

/-- Claim tokens as a request writes them. -/
inductive PushedTokens where
  /-- One token, whose format stands elsewhere in the request. -/
  | single (token : String)
  | many (tokens : List ClaimToken)
deriving DecidableEq, Repr

namespace PushedTokens

def toJson : PushedTokens → Json
  | single token => .string token
  | many tokens => .array (tokens.map ClaimToken.toJson)

def shape : Shape PushedTokens
  | .string token => .ok (single token)
  | json =>
    match Shape.list ClaimToken.shape json with
    | .ok tokens => .ok (many tokens)
    | .error _ => .error (.noAlternative "ClaimTokens")

end PushedTokens

/-- A token request. -/
structure TokenRequest where
  /-- The ticket of the negotiation that goes on. -/
  ticket : Option String
  claimToken : Option PushedTokens
  /-- The format of a single claim token. -/
  claimTokenFormat : Option String
  /-- What a new negotiation is about. -/
  permissions : Option (List Permission)
  /-- Accepted, and of no effect. -/
  scope : Option String
deriving DecidableEq, Repr

namespace TokenRequest

/-- A request that says nothing. -/
def blank : TokenRequest := ⟨none, none, none, none, none⟩

/-- A request that opens a negotiation. -/
def forPermissions (permissions : List Permission) : TokenRequest :=
  { blank with permissions := some permissions }

/-- A request that goes on with a negotiation. -/
def forTicket (ticket : String) : TokenRequest := { blank with ticket := some ticket }

/-- Pushes one more claim token. A single one before it takes its format along; without a format it
has the empty one. -/
def push (request : TokenRequest) (token : ClaimToken) : TokenRequest :=
  match request.claimToken with
  | none => { request with claimToken := some (.many [token]) }
  | some (.many tokens) => { request with claimToken := some (.many (tokens ++ [token])) }
  | some (.single first) =>
    { request with
      claimToken := some (.many [⟨first, request.claimTokenFormat.getD ""⟩, token])
      claimTokenFormat := none }

/-- The claim tokens in the order in which they were pushed. -/
def claimTokens (request : TokenRequest) : Except GrantError (List ClaimToken) :=
  match request.claimToken with
  | none => .ok []
  | some (.many tokens) => .ok tokens
  | some (.single token) =>
    match request.claimTokenFormat with
    | some format => .ok [⟨token, format⟩]
    | none => .error (.invalidRequest "claim_token requires claim_token_format")

/-- What a request asks the server to do. -/
inductive Aim where
  /-- To go on with the negotiation under a ticket. -/
  | resume (ticket : String)
  /-- To open a negotiation. -/
  | begin (permissions : List Permission)
deriving DecidableEq, Repr

/-- The aim of a request, which has to be exactly one. -/
def aim (request : TokenRequest) : Except GrantError Aim :=
  match request.ticket, request.permissions with
  | some _, some _ =>
    .error (.invalidRequest "A request carries either a ticket or permissions, not both")
  | none, none => .error (.invalidRequest "A request needs a ticket or permissions")
  | none, some [] => .error (.invalidRequest "No permissions requested")
  | none, some permissions => .ok (.begin permissions)
  | some ticket, none => .ok (.resume ticket)

/-- A request that has been checked: what it is for, and the claim tokens that it pushes. -/
structure Checked where
  aim : Aim
  tokens : List ClaimToken
deriving DecidableEq, Repr

def check (request : TokenRequest) : Except GrantError Checked := do
  let aim ← request.aim
  let tokens ← request.claimTokens
  .ok ⟨aim, tokens⟩

def toJson (request : TokenRequest) : Json :=
  .ofMembers <|
    optionalMember "ticket" (request.ticket.map .string) ++
      optionalMember "claim_token" (request.claimToken.map PushedTokens.toJson) ++
      optionalMember "claim_token_format" (request.claimTokenFormat.map .string) ++
      optionalMember "permissions" (request.permissions.map Permission.listToJson) ++
      optionalMember "scope" (request.scope.map .string)

def fields : Fields TokenRequest :=
  Fields.pure TokenRequest.mk
    |>.apply (.optional "ticket" Shape.string)
    |>.apply (.optional "claim_token" PushedTokens.shape)
    |>.apply (.optional "claim_token_format" Shape.string)
    |>.apply (.optional "permissions" Permission.listShape)
    |>.apply (.optional "scope" Shape.string)

def shape : Shape TokenRequest := fields.read .json "NegotiationInput"

/-- The request that the body of an HTTP request stands for. It has passed its check. -/
def ofJson (body : Json) : Except GrantError TokenRequest :=
  match shape body with
  | .error error => .error (.invalidRequest ("Malformed token request: " ++ error.message))
  | .ok request => do
    let _ ← request.check
    .ok request

end TokenRequest

end UmaGrant
