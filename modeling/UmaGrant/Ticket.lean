import UmaGrant.Requirements
import UmaGrant.Outcome
/-! # Tickets

A ticket is the state of one negotiation: what is asked for, which alternatives of claims would do,
and what has been shown so far. It is settled as soon as one alternative is empty.
-/

namespace UmaGrant

/-- The state of a negotiation. -/
structure Ticket where
  /-- What is asked for, entries for sources of derived resources included. -/
  permissions : List Permission
  /-- Alternatives, of which one has to be met. -/
  required : List Requirements
  /-- The claims shown so far. -/
  provided : Claims
  /-- The sources that a token from elsewhere still has to open. Only the keys matter. -/
  derivedIds : Dict Unit
  /-- For the identifier of a resource the one by which the client asked for it. -/
  aliases : Dict String

namespace Ticket

/-- A ticket on which nothing has been shown. -/
def new (permissions : List Permission) (required : List Requirements) : Ticket :=
  ⟨permissions, required, .empty, .empty, .empty⟩

/-- The ticket that asks for nothing and that nothing settles. -/
def blank : Ticket := new [] []

/-- Whether an alternative is met. -/
def isSatisfied (ticket : Ticket) : Bool := ticket.required.any Requirements.isSolved

def provide (ticket : Ticket) (claims : Claims) : Ticket :=
  { ticket with provided := ticket.provided.merge claims }

/-- The claim types that each alternative misses. -/
def outstandingClaimTypes (ticket : Ticket) : List (List String) :=
  ticket.required.map Requirements.claimTypes

/-- Whether an identifier stands for a source that has to be opened. -/
def isDerived (ticket : Ticket) (id : String) : Bool := ticket.derivedIds.contains id

def addDerived (ticket : Ticket) (id : String) : Ticket :=
  { ticket with derivedIds := ticket.derivedIds.insert id () }

/-- What is asked for, without the entries for sources. -/
def resourcePermissions (ticket : Ticket) : List Permission :=
  ticket.permissions.filter fun permission => !ticket.isDerived permission.resourceId

/-- The JSON form. Of requirements it tells the claim types. -/
def toJson (ticket : Ticket) : Json :=
  .ofMembers
    [("permissions", Permission.listToJson ticket.permissions),
      ("required", .array (ticket.outstandingClaimTypes.map .strings)),
      ("provided", .ofDict ticket.provided),
      ("derived_ids", .strings ticket.derivedIds.keys),
      ("aliases", .ofDict (ticket.aliases.mapValues .string)),
      ("satisfied", .bool ticket.isSatisfied)]

end Ticket

/-- What stands between a ticket and a token. -/
inductive MissingClaims where
  /-- An alternative that is not met. -/
  | alternative (requirements : Requirements)
  /-- A source that a token from elsewhere has to open. -/
  | derivation (claim : DerivationClaim)

/-- The descriptor of a source, if that is what is missing. -/
def MissingClaims.derivation? : MissingClaims → Option DerivationClaim
  | alternative _ => none
  | derivation claim => some claim

/-- The JSON form. Of requirements it tells the claim types. -/
def MissingClaims.toJson : MissingClaims → Json
  | alternative requirements =>
    .ofMembers [("alternative", .strings requirements.claimTypes)]
  | derivation claim => .ofMembers [("derivation", claim.toJson)]

/-- What becomes of a ticket: the permissions to give, or what is missing. -/
abbrev Resolution := Outcome (List Permission) (List MissingClaims)

end UmaGrant
