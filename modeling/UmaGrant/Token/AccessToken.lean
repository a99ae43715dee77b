import UmaGrant.Permission
/-! # Access tokens

What an access token says: the permissions of its bearer, and the contract under which they were
given.
-/

namespace UmaGrant

structure AccessToken where
  permissions : List Permission
  /-- The identifier of the contract. -/
  contract : Option String
deriving DecidableEq, Repr

namespace AccessToken

def toJson (token : AccessToken) : Json :=
  .ofMembers <|
    ("permissions", Permission.listToJson token.permissions) ::
    optionalMember "contract" (token.contract.map .string)

def fields : Fields AccessToken :=
  Fields.pure AccessToken.mk
    |>.apply (.required "permissions" Permission.listShape)
    |>.apply (.optional "contract" Shape.string)

def shape : Shape AccessToken := fields.read .json "AccessToken"

end AccessToken

/-- An access token as it is sent. -/
structure IssuedToken where
  text : String
  type : String
deriving DecidableEq, Repr

/-- The type of tokens that whoever bears them may use. -/
def bearer : String := "Bearer"

end UmaGrant
