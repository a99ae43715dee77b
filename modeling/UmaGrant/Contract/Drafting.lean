import UmaGrant.Claim
import UmaGrant.Halt
import UmaGrant.Store.Contracts
import UmaGrant.Supply
/-! # Drawing up contracts

Before a token is issued under contract, a stored contract of the assignee that covers the grants is
looked for. Only if there is none, one is drawn up for exactly these grants, and stored.
-/

namespace UmaGrant

/-- Who draws up contracts, and for how long they are in force. -/
structure Contracting where
  assigner : String
  lifetime : Lifetime
deriving DecidableEq, Repr

namespace Contracting

/-- The lifetime of contracts where none is set: half an hour. -/
def defaultLifetime : Lifetime := Lifetime.minutes 30

/-- The assignee of contracts with those who have not said who they are. -/
def anonymous : String := "urn:solidlab:uma:assignee:anonymous"

/-- The assignee of contracts with those who have shown claims: the WebID, else the client. -/
def assignee (claims : Claims) : String :=
  (claims.text? ClaimType.webId <|> claims.text? ClaimType.clientId).getD anonymous

def purpose? (claims : Claims) : Option Json := claims.get? ClaimType.purpose

def contractId (number : Nat) : String := "urn:uuid:" ++ Fresh.identifier number

/-- The first contract of the assignee that covers grants. -/
def reusable? (contracts : Contracts) (claims : Claims) (granted : List Permission)
    (now : Instant) : Option Contract :=
  (contracts.forAssignee (assignee claims)).find? fun contract =>
    contract.covers (assignee claims) (purpose? claims) granted now

def constraintsFor (contracting : Contracting) (claims : Claims) (now : Instant) :
    Except Halt (List Constraint) :=
  match now.after? contracting.lifetime with
  | none => .error .beyondCalendar
  | some expiry =>
    match Constraint.expiresAt (.utc expiry) with
    | .error error => .error (.refused error)
    | .ok expiresAt => .ok (expiresAt :: ((purpose? claims).map Constraint.purpose).toList)

/-- What a new contract permits: each scope of each grant. -/
def permissionsFor (contracting : Contracting) (claims : Claims) (constraints : List Constraint)
    (granted : List Permission) : List ContractPermission :=
  granted.flatMap fun grant =>
    grant.resourceScopes.map fun scope =>
      ⟨contracting.assigner, assignee claims, grant.resourceId, scope, constraints⟩

def draft (contracting : Contracting) (claims : Claims) (granted : List Permission)
    (now : Instant) (uid : String) : Except Halt Contract :=
  (contracting.constraintsFor claims now).map fun constraints =>
    ⟨uid, .utc now, contracting.permissionsFor claims constraints granted⟩

/-- The contract for grants and the contracts afterwards: one that is there already, or a new one
under the identifier of the number. -/
def contractFor (contracting : Contracting) (contracts : Contracts) (claims : Claims)
    (granted : List Permission) (now : Instant) (number : Nat) :
    Except Halt (Contract × Contracts) :=
  match reusable? contracts claims granted now with
  | some contract => .ok (contract, contracts)
  | none =>
    (contracting.draft claims granted now (contractId number)).map fun contract =>
      (contract, contracts.put contract)

end Contracting

end UmaGrant
