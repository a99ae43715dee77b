import UmaGrant.Json.Value
/-! # Claims

A claim set is what a requesting party has shown about itself: a JSON value for each claim type.
-/

namespace UmaGrant

abbrev Claims := Dict Json

namespace Claims

/-- The claims with others added; where both have a claim type the added value stays. -/
def merge (claims added : Claims) : Claims :=
  added.entries.foldl (fun merged entry => merged.insert entry.1 entry.2) claims

/-- The text of a claim that is a string. -/
def text? (claims : Claims) (claimType : String) : Option String :=
  (claims.get? claimType).bind Json.string?

end Claims

namespace ClaimType

def webId : String := "webid"

def clientId : String := "client_id"

/-- The declared purpose of an access. -/
def purpose : String := "purpose"

/-- The permissions that an access token from elsewhere proves. -/
def access : String := "access"

end ClaimType

namespace ClaimFormat

/-- An access token of an authorization server. -/
def accessToken : String := "urn:ietf:params:oauth:token-type:access_token"

/-- A bare WebID, taken without proof. -/
def bareWebId : String := "urn:solidlab:uma:claims:formats:webid"

/-- A JSON object of claims, taken without proof. -/
def bareJson : String := "urn:solidlab:uma:claims:formats:json"

end ClaimFormat

namespace Scope

def read : String := "urn:example:css:modes:read"
def append : String := "urn:example:css:modes:append"
def create : String := "urn:example:css:modes:create"
def delete : String := "urn:example:css:modes:delete"
def write : String := "urn:example:css:modes:write"

/-- The scope of access to a source for the sake of a resource derived from it. -/
def derivationRead : String := "derivation-read"

end Scope

end UmaGrant
