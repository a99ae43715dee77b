import UmaGrant.Authorizer
import UmaGrant.Store.Tickets
import UmaGrant.Time.Span
import UmaGrant.Token.Factory
import UmaGrant.Toml.Document
/-! # Settings of a server

A server is set up by a configuration file. Every setting but the issuer has a default. A
configuration is accepted only after its values have been checked, and the parts of a server are
made from it.
-/

namespace UmaGrant

structure TicketSettings where
  lifetime : Span
deriving DecidableEq, Repr

inductive TokenFormat where
  | signed
  | reference
deriving DecidableEq, Repr

structure TokenSettings where
  format : TokenFormat
  lifetime : Span
  audience : String
deriving DecidableEq, Repr

structure SigningSettings where
  algorithm : SigningAlgorithm
  /-- How many earlier keys are kept. -/
  keysToKeep : Nat
deriving DecidableEq, Repr

structure PolicySettings where
  publicNamespaces : List String
  webIds : List String
deriving DecidableEq, Repr

structure Config where
  issuer : String
  ticket : TicketSettings
  token : TokenSettings
  signing : SigningSettings
  policy : PolicySettings
deriving DecidableEq, Repr

/-- Why a configuration is not accepted. -/
inductive ConfigError where
  | invalidValue (detail : String)
  | missing (setting : String)
deriving DecidableEq, Repr

namespace ConfigError

def kind : ConfigError → String
  | invalidValue _ => "InvalidValue"
  | missing _ => "Missing"

def message : ConfigError → String
  | invalidValue detail => "Invalid configuration value: " ++ detail
  | missing setting => "Missing required configuration: " ++ setting

/-- The error of a server that cannot be set up. -/
def toGrantError (error : ConfigError) : GrantError := .configuration error.message

end ConfigError

/-- Why a file does not set up a server. What the reader of documents says of a file that it cannot read is
not part of this. -/
inductive ConfigFault where
  /-- The file is no document with such settings. -/
  | unreadable
  | refused (error : ConfigError)
deriving DecidableEq, Repr

namespace ConfigFault

/-- The error that is reported, with what the reader has to say: a file that cannot be read counts as an
invalid value. -/
def toError (account : String) : ConfigFault → ConfigError
  | unreadable => .invalidValue account
  | refused error => error

/-- The kind of a fault, apart from any account of the reader. -/
def kind : ConfigFault → String
  | unreadable => "Toml"
  | refused error => error.kind

def message : ConfigFault → String
  | unreadable => ""
  | refused error => error.message

end ConfigFault

namespace TokenFormat

def names : List (String × TokenFormat) := [("jwt", signed), ("opaque", reference)]

def name : TokenFormat → String
  | signed => "jwt"
  | reference => "opaque"

end TokenFormat

namespace Config

def halfHour : Span := .ofSeconds 1800

def defaultTicket : TicketSettings := ⟨halfHour⟩
def defaultToken : TokenSettings := ⟨.signed, halfHour, SignedTokens.defaultAudience⟩
def defaultSigning : SigningSettings := ⟨.es384, KeyRing.defaultKeep⟩
def defaultPolicy : PolicySettings := ⟨[], []⟩

def toJson (config : Config) : Json :=
  .ofMembers
    [("issuer", .string config.issuer),
      ("ticket", .ofMembers [("lifetime", config.ticket.lifetime.toJson)]),
      ("token", .ofMembers
        [("format", .string config.token.format.name),
          ("lifetime", config.token.lifetime.toJson),
          ("audience", .string config.token.audience)]),
      ("signing", .ofMembers
        [("algorithm", .string config.signing.algorithm.name),
          ("keys_to_keep", .nat config.signing.keysToKeep)]),
      ("policy", .ofMembers
        [("public_namespaces", .strings config.policy.publicNamespaces),
          ("webids", .strings config.policy.webIds)])]

def ticketFields : Fields TicketSettings :=
  Fields.pure TicketSettings.mk
    |>.apply (.defaulted "lifetime" defaultTicket.lifetime Span.shape)

def tokenFields (dialect : Dialect) : Fields TokenSettings :=
  Fields.pure TokenSettings.mk
    |>.apply (.defaulted "format" defaultToken.format (Shape.variant dialect TokenFormat.names))
    |>.apply (.defaulted "lifetime" defaultToken.lifetime Span.shape)
    |>.apply (.defaulted "audience" defaultToken.audience Shape.string)

def signingFields (dialect : Dialect) : Fields SigningSettings :=
  Fields.pure SigningSettings.mk
    |>.apply (.defaulted "algorithm" defaultSigning.algorithm (SigningAlgorithm.shape dialect))
    |>.apply (.defaulted "keys_to_keep" defaultSigning.keysToKeep Shape.count)

def policyFields : Fields PolicySettings :=
  Fields.pure PolicySettings.mk
    |>.apply (.defaulted "public_namespaces" [] (Shape.list Shape.string))
    |>.apply (.defaulted "webids" [] (Shape.list Shape.string))

def fields (dialect : Dialect) : Fields Config :=
  Fields.pure Config.mk
    |>.apply (.defaulted "issuer" "" Shape.string)
    |>.apply (.defaulted "ticket" defaultTicket (ticketFields.read dialect "TicketConfig"))
    |>.apply (.defaulted "token" defaultToken ((tokenFields dialect).read dialect "TokenConfig"))
    |>.apply
      (.defaulted "signing" defaultSigning ((signingFields dialect).read dialect "SigningConfig"))
    |>.apply (.defaulted "policy" defaultPolicy (policyFields.read dialect "PolicyConfig"))

/-- Reads the JSON form, or what a document in another format has been read as. -/
def shape (dialect : Dialect) : Shape Config := (fields dialect).read dialect "UmaConfig"

/-- The rules of TOML documents: surplus items do not matter, and beside the name of a variant may
stand an empty array or table. -/
def tomlDialect : Dialect where
  surplusItems := true
  emptyPayload
    | .array [] => true
    | .object [] => true
    | _ => false

/-- Checks the values of a configuration, in the order of its settings. -/
def validate (config : Config) : Except ConfigError Unit :=
  if config.issuer.isEmpty then .error (.missing "issuer")
  else if (Url.parse? config.issuer).isNone then
    .error (.invalidValue ("issuer '" ++ config.issuer ++ "' is not an absolute URL"))
  else if config.ticket.lifetime.isZero then
    .error (.invalidValue "ticket.lifetime must be > 0")
  else if config.token.lifetime.isZero then
    .error (.invalidValue "token.lifetime must be > 0")
  else if config.token.audience.isEmpty then
    .error (.invalidValue "token.audience cannot be empty")
  else .ok ()

def ofToml (text : String) : Except ConfigFault Config :=
  match Toml.parse? text with
  | none => .error .unreadable
  | some document =>
    match shape tomlDialect document.toJson with
    | .error _ => .error .unreadable
    | .ok config =>
      match config.validate with
      | .error error => .error (.refused error)
      | .ok () => .ok config

/-- The same with the error that is reported. `account` is what the reader says of a file that it cannot
read. -/
def load (account : String → String) (text : String) : Except ConfigError Config :=
  (ofToml text).mapError (·.toError (account text))

def ticketLifetime (config : Config) : Lifetime := config.ticket.lifetime.toLifetime

def tokenLifetime (config : Config) : Lifetime := config.token.lifetime.toLifetime

def tickets (config : Config) : Tickets := .empty config.ticketLifetime

/-- The authorizer: public namespaces are open to everyone, all else to the listed WebIDs. -/
def authorizer (config : Config) : Authorizer :=
  .publicNamespaces config.policy.publicNamespaces (.webIds config.policy.webIds)

/-- The token factory of a new server. The number makes its first key, if it needs one. -/
def tokenFactory (config : Config) (number : Nat) (scheme : SignatureScheme := .ideal) :
    TokenFactory :=
  match config.token.format with
  | .reference => .reference (.empty config.tokenLifetime)
  | .signed =>
    .signed ⟨config.issuer, config.token.audience, config.tokenLifetime⟩
      (.fresh config.signing.algorithm config.signing.keysToKeep number scheme)

end Config

end UmaGrant
