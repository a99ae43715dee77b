import UmaGrant.Authorizer.Policy
import UmaGrant.Description
/-! # Authorizers

An authorizer answers two questions. `permissions`: which of the queried permissions do these
claims give? `credentials`: which alternatives of claims would give these permissions? Authorizers
are built up from simple ones by carving out public namespaces and by routing on namespaces.
-/

namespace UmaGrant

/-- An authorizer that lives elsewhere and is asked on the record. -/
structure RemoteAuthorizer where
  permissions : Claims → Option (List Permission) → Except GrantError (List Permission)
  credentials : List Permission → Option (List String) → Except GrantError (List Requirements)

inductive Authorizer where
  /-- Gives everything to everyone. -/
  | everyone
  /-- Gives nothing. -/
  | nobody
  /-- Gives everything to the listed WebIDs. -/
  | webIds (allowed : List String)
  /-- Leaves each scope to a policy engine. -/
  | policy (policies : PolicySet)
  /-- Gives resources in the listed namespaces to everyone and leaves the others to another
  authorizer. -/
  | publicNamespaces (namespaces : List String) (inner : Authorizer)
  /-- Leaves a query to the authorizer for its namespace, or to the last one for want of such. A
  query over several namespaces is refused. -/
  | byNamespace (routes : List (String × Authorizer)) (fallback : Authorizer)
  /-- Asks elsewhere. -/
  | remote (authorizer : RemoteAuthorizer)

/-- What is not known to give anything gives nothing. -/
instance : Inhabited Authorizer := ⟨.nobody⟩

namespace Authorizer

/-- All that a query asks for; without a query, everything. -/
def grantQuery (query : Option (List Permission)) : List Permission := query.getD [.any]

/-- Splits permissions into those in public namespaces and the others, both in order. -/
def splitPublic (descriptions : Descriptions) (namespaces : List String) :
    List Permission → Except GrantError (List Permission × List Permission)
  | [] => .ok ([], [])
  | permission :: rest => do
    let home ← descriptions.namespaceOf permission.resourceId
    let (shared, guarded) ← splitPublic descriptions namespaces rest
    if home.any namespaces.contains then .ok (permission :: shared, guarded)
    else .ok (shared, permission :: guarded)

inductive Home where
  /-- In one namespace, or in none. -/
  | single (name : Option String)
  /-- In several. -/
  | mixed
deriving DecidableEq, Repr

def homes (descriptions : Descriptions) :
    List Permission → Except GrantError (List (Option String))
  | [] => .ok []
  | permission :: rest => do
    let home ← descriptions.namespaceOf permission.resourceId
    let more ← homes descriptions rest
    .ok (home :: more)

/-- Where permissions belong. No permissions belong to no namespace. -/
def homeOf (descriptions : Descriptions) (permissions : List Permission) :
    Except GrantError Home := do
  match ← homes descriptions permissions with
  | [] => .ok (.single none)
  | first :: rest => .ok (if rest.all (· = first) then .single first else .mixed)

mutual

/-- The permissions that claims give. With a query, only of those that it asks for. -/
def permissions (descriptions : Descriptions) (claims : Claims) (query : Option (List Permission)) :
    Authorizer → Consult (List Permission)
  | everyone => pure (grantQuery query)
  | nobody => pure []
  | webIds allowed =>
    pure (if (claims.text? ClaimType.webId).any allowed.contains then grantQuery query else [])
  | policy policies =>
    match query with
    | none => pure []
    | some asked => policies.decideAll claims asked
  | publicNamespaces namespaces inner =>
    match query with
    | none => permissions descriptions claims none inner
    | some asked => do
      let (shared, guarded) ← Consult.lift (splitPublic descriptions namespaces asked)
      if guarded.isEmpty then pure shared
      else do
        let granted ← permissions descriptions claims (some guarded) inner
        pure (shared ++ granted)
  | byNamespace routes fallback =>
    match query with
    | none => permissions descriptions claims none fallback
    | some asked => do
      match ← Consult.lift (homeOf descriptions asked) with
      | .mixed => pure []
      | .single none => permissions descriptions claims query fallback
      | .single (some name) =>
        match routedPermissions descriptions claims query name routes with
        | some decision => decision
        | none => permissions descriptions claims query fallback
  | remote authorizer =>
    .of (authorizer.permissions claims query) [.grants claims query]

def routedPermissions (descriptions : Descriptions) (claims : Claims)
    (query : Option (List Permission)) (name : String) :
    List (String × Authorizer) → Option (Consult (List Permission))
  | [] => none
  | (namespaceName, authorizer) :: rest =>
    if namespaceName = name then some (permissions descriptions claims query authorizer)
    else routedPermissions descriptions claims query name rest

end

mutual

/-- Alternatives of claims that would give the permissions. No alternative means that nothing
would. `known` are the claims that the asker can handle, if it says so. -/
def credentials (descriptions : Descriptions) (asked : List Permission)
    (known : Option (List String)) : Authorizer → Consult (List Requirements)
  | everyone => pure [.empty]
  | nobody => pure []
  | webIds allowed => pure [Requirements.withOneOf .empty ClaimType.webId allowed]
  | policy policies => pure [Dict.empty.insert ClaimType.webId ⟨policies.admits asked⟩]
  | publicNamespaces namespaces inner => do
    let (_, guarded) ← Consult.lift (splitPublic descriptions namespaces asked)
    if guarded.isEmpty then pure [.empty] else credentials descriptions guarded known inner
  | byNamespace routes fallback => do
    match ← Consult.lift (homeOf descriptions asked) with
    | .mixed => pure []
    | .single none => credentials descriptions asked known fallback
    | .single (some name) =>
      match routedCredentials descriptions asked known name routes with
      | some answer => answer
      | none => credentials descriptions asked known fallback
  | remote authorizer => .of (authorizer.credentials asked known) [.credentials asked known]

def routedCredentials (descriptions : Descriptions) (asked : List Permission)
    (known : Option (List String)) (name : String) :
    List (String × Authorizer) → Option (Consult (List Requirements))
  | [] => none
  | (namespaceName, authorizer) :: rest =>
    if namespaceName = name then some (credentials descriptions asked known authorizer)
    else routedCredentials descriptions asked known name rest

end

end Authorizer

end UmaGrant
