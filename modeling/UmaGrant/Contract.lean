import UmaGrant.GrantError
import UmaGrant.Permission
import UmaGrant.Time.Rfc3339
/-! # Contracts

A contract says who may do what with which resource, granted by whom, and under which constraints.
Two kinds of constraints have a meaning here: one on the purpose of the access and one on its time.
A contract covers a grant if every scope of it is permitted to the assignee, for the same purpose
and before every expiry.
-/

namespace UmaGrant

structure Constraint where
  leftOperand : String
  operator : String
  rightOperand : Json
deriving Repr

namespace Constraint

def purposeOperand : String := "purpose"

def expiryOperand : String := "dateTime"

def purpose (purpose : Json) : Constraint := ⟨purposeOperand, "eq", purpose⟩

def expiresAt (instant : ZonedInstant) : Except GrantError Constraint :=
  match Rfc3339.format instant with
  | .ok text => .ok ⟨expiryOperand, "lt", .string text⟩
  | .error fault => .error (.internal ("Failed to format expiry: " ++ fault.message))

/-- The instant of a constraint on the time, if it has one that can be read. -/
def expiry? (constraint : Constraint) : Option ZonedInstant :=
  if constraint.leftOperand = expiryOperand then
    constraint.rightOperand.string?.bind fun text => (Rfc3339.parse text).toOption
  else none

def toJson (constraint : Constraint) : Json :=
  .ofMembers
    [("leftOperand", .string constraint.leftOperand), ("operator", .string constraint.operator),
      ("rightOperand", constraint.rightOperand)]

def fields : Fields Constraint :=
  Fields.pure Constraint.mk
    |>.apply (.required "leftOperand" Shape.string)
    |>.apply (.required "operator" Shape.string)
    |>.apply (.required "rightOperand" Shape.any)

def shape : Shape Constraint := fields.read .json "Constraint"

end Constraint

/-- One action on one resource that a contract permits. -/
structure ContractPermission where
  /-- Who gives access. -/
  assigner : String
  /-- Who gets access. -/
  assignee : String
  /-- The resource. -/
  target : String
  /-- The scope. -/
  action : String
  constraints : List Constraint
deriving Repr

namespace ContractPermission

/-- Whether every expiry is yet to come. -/
def isLive (permission : ContractPermission) (now : Instant) : Bool :=
  (permission.constraints.filterMap Constraint.expiry?).all fun expiry =>
    now.nanos < expiry.instant.nanos

/-- The purpose that the first constraint on it asks for. -/
def purpose? (permission : ContractPermission) : Option Json :=
  (permission.constraints.find? fun constraint =>
    constraint.leftOperand = Constraint.purposeOperand).map (·.rightOperand)

/-- Whether two purposes are the same one, or both left open. -/
def samePurpose : Option Json → Option Json → Bool
  | none, none => true
  | some left, some right => left.sameValue right
  | _, _ => false

/-- Whether the permission allows an action on a resource to an assignee. -/
def allows (permission : ContractPermission) (assignee : String) (purpose : Option Json)
    (resourceId scope : String) (now : Instant) : Bool :=
  permission.assignee = assignee && permission.target = resourceId && permission.action = scope &&
    samePurpose permission.purpose? purpose && permission.isLive now

def toJson (permission : ContractPermission) : Json :=
  .ofMembers <|
    [("assigner", .string permission.assigner), ("assignee", .string permission.assignee),
      ("target", .string permission.target), ("action", .string permission.action)] ++
      if permission.constraints.isEmpty then []
      else [("constraints", .array (permission.constraints.map Constraint.toJson))]

def fields : Fields ContractPermission :=
  Fields.pure ContractPermission.mk
    |>.apply (.required "assigner" Shape.string)
    |>.apply (.required "assignee" Shape.string)
    |>.apply (.required "target" Shape.string)
    |>.apply (.required "action" Shape.string)
    |>.apply (.defaulted "constraints" [] (Shape.list Constraint.shape))

def shape : Shape ContractPermission := fields.read .json "ContractPermission"

end ContractPermission

structure Contract where
  uid : String
  /-- When the contract was drawn up. -/
  issued : ZonedInstant
  permissions : List ContractPermission
deriving Repr

namespace Contract

/-- Whether the contract covers grants to an assignee at an instant. -/
def covers (contract : Contract) (assignee : String) (purpose : Option Json)
    (granted : List Permission) (now : Instant) : Bool :=
  granted.all fun grant =>
    grant.resourceScopes.all fun scope =>
      contract.permissions.any fun permission =>
        permission.allows assignee purpose grant.resourceId scope now

/-- Whether the contract permits anything to an assignee. -/
def concerns (contract : Contract) (assignee : String) : Bool :=
  contract.permissions.any fun permission => permission.assignee = assignee

/-- The JSON form of an instant; null if it has no text. -/
def instantToJson (instant : ZonedInstant) : Json :=
  .orNull ((Rfc3339.format instant).toOption.map .string)

def instantShape : Shape ZonedInstant
  | .string text =>
    match Rfc3339.parse text with
    | .ok instant => .ok instant
    | .error fault => .error (.malformed fault.message)
  | json => Shape.mismatch "an RFC3339-formatted `OffsetDateTime`" json

def toJson (contract : Contract) : Json :=
  .ofMembers
    [("uid", .string contract.uid), ("issued", instantToJson contract.issued),
      ("permissions", .array (contract.permissions.map ContractPermission.toJson))]

def fields : Fields Contract :=
  Fields.pure Contract.mk
    |>.apply (.required "uid" Shape.string)
    |>.apply (.required "issued" instantShape)
    |>.apply (.required "permissions" (Shape.list ContractPermission.shape))

def shape : Shape Contract := fields.read .json "Contract"

end Contract

end UmaGrant
