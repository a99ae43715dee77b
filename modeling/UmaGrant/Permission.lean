import UmaGrant.Json.Shape
/-! # Permissions

A permission names a resource and the scopes that are asked for or granted on it. Two wildcards
stand for every resource and for every scope. `covers` is the test on which every other decision
rests: each requested scope must be granted, by one grant or by several.
-/

namespace UmaGrant

structure Permission where
  resourceId : String
  resourceScopes : List String
  /-- The policies by which the permission was given, if they are known. -/
  policies : Option (List String)
deriving DecidableEq, Repr

namespace Permission

/-- The identifier that stands for every resource. -/
def anyResource : String := "urn:solidlab:uma:resources:any"

/-- The scope that stands for every scope. -/
def anyScope : String := "urn:solidlab:uma:scopes:any"

/-- Scopes on a resource, with no policies known. -/
def of (resourceId : String) (resourceScopes : List String) : Permission :=
  ⟨resourceId, resourceScopes, none⟩

def any : Permission := of anyResource [anyScope]

def isAnyResource (permission : Permission) : Bool := permission.resourceId = anyResource

/-- Whether the permission has a scope, by name or by wildcard. -/
def hasScope (permission : Permission) (scope : String) : Bool :=
  permission.resourceScopes.any fun granted => granted = scope || granted = anyScope

/-- The permission with a scope more, unless that very scope is there. -/
def addScope (permission : Permission) (scope : String) : Permission :=
  if permission.resourceScopes.contains scope then permission
  else { permission with resourceScopes := permission.resourceScopes ++ [scope] }

/-- The permission on the same resource with only some of its scopes. -/
def retainScopes (permission : Permission) (keep : String → Bool) : Permission :=
  { permission with resourceScopes := permission.resourceScopes.filter keep }

/-- Whether a grant gives one scope on one resource. -/
def grants (granted : Permission) (resourceId scope : String) : Bool :=
  (granted.isAnyResource || granted.resourceId = resourceId) && granted.hasScope scope

def toJson (permission : Permission) : Json :=
  .ofMembers <|
    ("resource_id", .string permission.resourceId) ::
    ("resource_scopes", .strings permission.resourceScopes) ::
    optionalMember "policies" (permission.policies.map .strings)

def fields : Fields Permission :=
  (((Fields.pure Permission.mk).apply (.required "resource_id" Shape.string)).apply
    (.defaulted "resource_scopes" [] (Shape.list Shape.string))).apply
    (.optional "policies" (Shape.list Shape.string))

def shape : Shape Permission := fields.read .json "Permission"

def listToJson (permissions : List Permission) : Json := .array (permissions.map toJson)

def listShape : Shape (List Permission) := Shape.list shape

end Permission

/-- Whether grants give every scope of a request on its resource. Different grants may give
different scopes. -/
def covers (granted : List Permission) (requested : Permission) : Bool :=
  requested.resourceScopes.all fun scope =>
    granted.any fun grant => grant.grants requested.resourceId scope

end UmaGrant
