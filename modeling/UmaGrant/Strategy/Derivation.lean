import UmaGrant.Description
import UmaGrant.SyntheticId
import UmaGrant.Supply
import UmaGrant.Ticket
/-! # Derived resources

A derived resource is given away only to those who may read all its sources. For each source the
client shows an access token of the server that guards it, for the identifier by which that server
knows it. For other servers the resources of this one have synthetic identifiers in turn, which are
undone when they come in and put back when they go out.
-/

namespace UmaGrant

/-- The server that guards each source, by the identifier of the source. -/
abbrev Issuers := Dict String

/-- A ticket and the servers behind its sources. -/
structure Sourced where
  ticket : Ticket
  issuers : Issuers

namespace Sourced

/-- Demands access to a source, once. -/
def demand (sourced : Sourced) (source : Source) : Sourced :=
  let id := source.derivationResourceId
  let issuers := sourced.issuers.insert id source.issuer
  if sourced.ticket.isDerived id then { sourced with issuers }
  else
    let ticket := sourced.ticket.addDerived id
    let entry := Permission.of id [Scope.derivationRead]
    ⟨{ ticket with permissions := ticket.permissions ++ [entry] }, issuers⟩

/-- Demands access to the sources of resources. -/
def demandFor (descriptions : Descriptions) (sourced : Sourced) :
    List Permission → Except GrantError Sourced
  | [] => .ok sourced
  | permission :: rest => do
    let known ← descriptions.lookup permission.resourceId
    let sources := (known.map (·.derivedFrom)).getD []
    demandFor descriptions (sources.foldl demand sourced) rest

end Sourced

namespace Derivation

/-- A permission on the resource behind a synthetic identifier, if it has one. -/
def unmask (codec : IdCodec) (permission : Permission) : Permission :=
  match codec.decode? permission.resourceId with
  | some id => { permission with resourceId := id }
  | none => permission

/-- For each resource that is asked for by a synthetic identifier the last one used for it. -/
def aliases (codec : IdCodec) (permissions : List Permission) : Dict String :=
  permissions.foldl
    (fun known permission =>
      match codec.decode? permission.resourceId with
      | some id => known.insert id permission.resourceId
      | none => known)
    .empty

/-- The grants that a claim set proves by access tokens from elsewhere. -/
def provenGrants? (claims : Claims) : Option (List Permission) :=
  (claims.get? ClaimType.access).bind fun value => (Permission.listShape value).toOption

/-- Takes a source off a ticket if a grant opens it. -/
def prove (ticket : Ticket) (grant : Permission) : Ticket :=
  if grant.hasScope Scope.derivationRead && ticket.isDerived grant.resourceId then
    { ticket with
      derivedIds := ticket.derivedIds.erase grant.resourceId
      permissions := ticket.permissions.filter (·.resourceId ≠ grant.resourceId) }
  else ticket

/-- Takes the sources off a ticket that a claim set opens. -/
def proveAll (ticket : Ticket) (claims : Claims) : Ticket :=
  ((provenGrants? claims).getD []).foldl prove ticket

/-- The claims with the grants in them on real identifiers. -/
def unmaskClaims (codec : IdCodec) (claims : Claims) : Claims :=
  match provenGrants? claims with
  | some grants =>
    claims.insert ClaimType.access (Permission.listToJson (grants.map (unmask codec)))
  | none => claims

/-- The error for a source of which nobody knows the server. -/
def noIssuer (id : String) : GrantError :=
  .internal ("No issuer recorded for derivation id " ++ id)

/-- What a client has to present for sources. -/
def claimsFor (issuers : Issuers) : List String → Except GrantError (List DerivationClaim)
  | [] => .ok []
  | id :: rest =>
    match issuers.get? id with
    | none => .error (noIssuer id)
    | some issuer => do
      let more ← claimsFor issuers rest
      .ok (⟨ClaimFormat.accessToken, issuer, id, [Scope.derivationRead]⟩ :: more)

/-- What a ticket still demands for its sources. -/
def outstanding (issuers : Issuers) (ticket : Ticket) : Except GrantError (List DerivationClaim) :=
  claimsFor issuers ticket.derivedIds.keys

/-- The ticket as if it had no sources. -/
def withoutSources (ticket : Ticket) : Ticket :=
  { ticket with permissions := ticket.resourcePermissions, derivedIds := .empty }

/-- A grant under the identifier that the client gets to see: the one by which it asked, or a fresh
synthetic one if the grant opens a source. -/
def mask (codec : IdCodec) (ticket : Ticket) (supply : Supply) (granted : Permission) :
    Permission × Supply :=
  match ticket.aliases.get? granted.resourceId with
  | some id => ({ granted with resourceId := id }, supply)
  | none =>
    if granted.hasScope Scope.derivationRead then
      let (number, supply) := supply.draw
      ({ granted with resourceId := codec.encode (Fresh.nonce number) granted.resourceId }, supply)
    else (granted, supply)

/-- Grants under the identifiers that the client gets to see. -/
def maskAll (codec : IdCodec) (ticket : Ticket) (supply : Supply) :
    List Permission → List Permission × Supply
  | [] => ([], supply)
  | granted :: rest =>
    let (first, supply) := mask codec ticket supply granted
    let (more, supply) := maskAll codec ticket supply rest
    (first :: more, supply)

end Derivation

end UmaGrant
