import UmaGrant.Json.Shape
/-! # Errors of a token request

Every way in which a token request ends without a token, with its wording, its class, and the error
code that the token endpoint sends.
-/

namespace UmaGrant

/-- An access token from elsewhere that a client has to present. -/
structure DerivationClaim where
  claimTokenFormat : String
  /-- The authorization server that gives the token. -/
  issuer : String
  /-- The identifier to ask for there. -/
  derivationResourceId : String
  /-- The scopes to ask for there. -/
  resourceScopes : List String
deriving DecidableEq, Repr

namespace DerivationClaim

def toJson (claim : DerivationClaim) : Json :=
  .ofMembers
    [("claim_token_format", .string claim.claimTokenFormat),
      ("issuer", .string claim.issuer),
      ("derivation_resource_id", .string claim.derivationResourceId),
      ("resource_scopes", .strings claim.resourceScopes)]

def fields : Fields DerivationClaim :=
  Fields.pure DerivationClaim.mk
    |>.apply (.required "claim_token_format" Shape.string)
    |>.apply (.required "issuer" Shape.string)
    |>.apply (.required "derivation_resource_id" Shape.string)
    |>.apply (.required "resource_scopes" (Shape.list Shape.string))

def shape : Shape DerivationClaim := fields.read .json "DerivationClaim"

end DerivationClaim

/-- What a client still has to push. -/
structure RequiredClaims where
  /-- For each alternative that would do, the claim types that it misses. -/
  claimTypes : List (List String)
  /-- The tokens from elsewhere that are needed in any case. -/
  derivations : List DerivationClaim
deriving DecidableEq, Repr

namespace RequiredClaims

def none : RequiredClaims := ⟨[], []⟩

def toJson (required : RequiredClaims) : Json :=
  .ofMembers <|
    ("claim_token_format", .array (required.claimTypes.map .strings)) ::
    if required.derivations.isEmpty then []
    else [("derivations", .array (required.derivations.map DerivationClaim.toJson))]

def fields : Fields RequiredClaims :=
  Fields.pure RequiredClaims.mk
    |>.apply (.required "claim_token_format" (Shape.list (Shape.list Shape.string)))
    |>.apply (.defaulted "derivations" [] (Shape.list DerivationClaim.shape))

def shape : Shape RequiredClaims := fields.read .json "RequiredClaims"

end RequiredClaims

/-- Why a token request ends without a token. -/
inductive GrantError where
  /-- The request is malformed. -/
  | invalidRequest (detail : String)
  /-- The ticket is unknown, used or expired. -/
  | invalidTicket (detail : String)
  /-- No claims could ever help. -/
  | requestDenied
  /-- More claims are needed; the negotiation goes on under a fresh ticket. -/
  | needInfo (ticket : String) (required : RequiredClaims)
  /-- A claim token could not be verified. -/
  | verification (detail : String)
  /-- An access token is not valid. -/
  | invalidToken (detail : String)
  | storage (detail : String)
  | configuration (detail : String)
  | internal (detail : String)
deriving DecidableEq, Repr

inductive ErrorCategory where
  | validation
  | ticket
  | authorization
  | token
  | collaborator
  | infrastructure
  | configuration
  | internal
deriving DecidableEq, Repr

def ErrorCategory.name : ErrorCategory → String
  | .validation => "validation"
  | .ticket => "ticket"
  | .authorization => "authorization"
  | .token => "token"
  | .collaborator => "collaborator"
  | .infrastructure => "infrastructure"
  | .configuration => "configuration"
  | .internal => "internal"

namespace GrantError

def message : GrantError → String
  | invalidRequest detail => "Invalid request: " ++ detail
  | invalidTicket detail => "Invalid ticket: " ++ detail
  | requestDenied => "Request denied"
  | needInfo ticket _ => "Need info: ticket " ++ ticket
  | verification detail => "Claim verification failed: " ++ detail
  | invalidToken detail => "Invalid token: " ++ detail
  | storage detail => "Storage error: " ++ detail
  | configuration detail => "Configuration error: " ++ detail
  | internal detail => "Internal error: " ++ detail

def kind : GrantError → String
  | invalidRequest _ => "InvalidRequest"
  | invalidTicket _ => "InvalidTicket"
  | requestDenied => "RequestDenied"
  | needInfo _ _ => "NeedInfo"
  | verification _ => "Verification"
  | invalidToken _ => "InvalidToken"
  | storage _ => "Storage"
  | configuration _ => "Configuration"
  | internal _ => "Internal"

/-- The error of a kind with a detail; for want of such a kind it is an internal one. -/
def ofKind (kind detail : String) : GrantError :=
  match kind with
  | "InvalidRequest" => invalidRequest detail
  | "InvalidTicket" => invalidTicket detail
  | "RequestDenied" => requestDenied
  | "NeedInfo" => needInfo detail .none
  | "Verification" => verification detail
  | "InvalidToken" => invalidToken detail
  | "Storage" => storage detail
  | "Configuration" => configuration detail
  | _ => internal detail

/-- The members of a report on an error. -/
def reportMembers (error : GrantError) : List (String × Json) :=
  [("error", .string error.kind), ("message", .string error.message)] ++
    match error with
    | needInfo ticket required =>
      [("ticket", .string ticket), ("required_claims", required.toJson)]
    | _ => []

/-- The error that a report is about, if it is a report on one. -/
def reported? (report : Json) : Option GrantError :=
  (report.member? "error").map fun kind =>
    ofKind (kind.string?.getD "") (((report.member? "message").bind Json.string?).getD "")

def category : GrantError → ErrorCategory
  | invalidRequest _ => .validation
  | invalidTicket _ => .ticket
  | requestDenied => .authorization
  | needInfo _ _ => .authorization
  | verification _ => .collaborator
  | invalidToken _ => .token
  | storage _ => .infrastructure
  | configuration _ => .configuration
  | internal _ => .internal

/-- The error code of the token endpoint. -/
def code : GrantError → String
  | invalidRequest _ => "invalid_request"
  | invalidTicket _ => "invalid_grant"
  | requestDenied => "request_denied"
  | needInfo _ _ => "need_info"
  | invalidToken _ => "invalid_token"
  | verification _ | storage _ | configuration _ | internal _ => "server_error"

/-- Whether the server is at fault, and not the client. -/
def isServerError : GrantError → Bool
  | verification _ | storage _ | configuration _ | internal _ => true
  | invalidRequest _ | invalidTicket _ | requestDenied | needInfo _ _ | invalidToken _ => false

def isClientError (error : GrantError) : Bool := !error.isServerError

/-- Whether the client may continue the negotiation. -/
def hasRecourse : GrantError → Bool
  | needInfo _ _ => true
  | _ => false

end GrantError

end UmaGrant
