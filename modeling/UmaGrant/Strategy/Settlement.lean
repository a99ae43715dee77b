import UmaGrant.Authorizer
import UmaGrant.Ticket
/-! # Settling tickets

There are two methods to settle a ticket. A judged ticket collects claims, and the authorizer says
in the end what they give. An eliminated one starts with all alternatives that the authorizer
offers; each claim strikes the requirements that it meets, and the ticket is settled once an
alternative has none left.
-/

namespace UmaGrant

inductive SettlementMethod where
  /-- The authorizer decides anew on all claims each time. -/
  | judgement
  /-- Claims strike requirements that were fixed when the ticket was made. -/
  | elimination
deriving DecidableEq, Repr

namespace Ticket

/-- Takes the requirements away that a claim meets, in every alternative. -/
def strikeAll (claimType : String) (value : Json) : List Requirements → Logged (List Requirements)
  | [] => Logged.pure []
  | alternative :: rest => do
    let met ← alternative.meet claimType value
    let more ← strikeAll claimType value rest
    Logged.pure (met :: more)

/-- Adds a claim to what has been shown and takes the requirements away that it meets. -/
def strike (ticket : Ticket) (claimType : String) (value : Json) : Logged Ticket := do
  let required ← strikeAll claimType value ticket.required
  Logged.pure { ticket with required, provided := ticket.provided.insert claimType value }

/-- Adds claims one after the other. -/
def strikeEach (ticket : Ticket) : List (String × Json) → Logged Ticket
  | [] => Logged.pure ticket
  | (claimType, value) :: rest => do
    let struck ← ticket.strike claimType value
    strikeEach struck rest

end Ticket

/-- A method to settle tickets, and the authorizer that it rests on. -/
structure Settlement where
  method : SettlementMethod
  authorizer : Authorizer

namespace Settlement

def openTicket (settlement : Settlement) (descriptions : Descriptions)
    (permissions : List Permission) : Consult Ticket :=
  match settlement.method with
  | .judgement => pure (.new permissions [.empty])
  | .elimination => do
    let alternatives ← settlement.authorizer.credentials descriptions permissions none
    pure (.new permissions alternatives)

def addClaims (settlement : Settlement) (ticket : Ticket) (claims : Claims) : Logged Ticket :=
  match settlement.method with
  | .judgement => Logged.pure (ticket.provide claims)
  | .elimination => ticket.strikeEach claims.entries

def nonemptyGrants (granted : List Permission) : List Permission :=
  granted.filter fun permission => !permission.resourceScopes.isEmpty

def resolve (settlement : Settlement) (descriptions : Descriptions) (ticket : Ticket) :
    Consult Resolution :=
  match settlement.method with
  | .judgement => do
    let granted ←
      settlement.authorizer.permissions descriptions ticket.provided (some ticket.permissions)
    match nonemptyGrants granted with
    | [] => pure (.failure [])
    | grants => pure (.success grants)
  | .elimination =>
    pure <|
      if ticket.isSatisfied then .success ticket.permissions
      else .failure (ticket.required.map .alternative)

end Settlement

end UmaGrant
