import UmaGrant.Contract.Drafting
import UmaGrant.Negotiation.Response
import UmaGrant.Negotiation.Round
import UmaGrant.Strategy
import UmaGrant.Verifier
/-! # The token endpoint of a server

One round of a negotiation: a ticket is made or taken from the store, claim tokens are verified and
their claims added one token after the other, and the ticket is resolved. A success ends in an
access token, if need be under a contract. Otherwise the ticket goes back into the store under a
fresh identifier and the client is told what is missing, unless nothing could ever help.
-/

namespace UmaGrant

/-- How a server decides and what it works with. -/
structure Server where
  strategy : Strategy
  verifier : Verifier
  /-- The name of its token factory. -/
  factory : String
  /-- How it draws up contracts, if tokens are bound to contracts. -/
  contracting : Option Contracting
  /-- The error of storing a ticket while the ticket store is out of order. -/
  putOutage : Option GrantError
  /-- The error of taking a ticket while the ticket store is out of order. -/
  takeOutage : Option GrantError

/-- A ticket that has been resolved, and the grants that came of it. -/
structure Resolved where
  ticket : Ticket
  granted : List Permission

namespace Server

/-- The error for a ticket that is unknown, used or expired. -/
def invalidTicket : GrantError := .invalidTicket "The provided ticket is not valid."

def takeTicket (server : Server) (now : Instant) (id : String) : Round Ticket :=
  match server.takeOutage with
  | some error => Round.refuse error
  | none => do
    let realm ← Round.realm
    let (found, tickets) := realm.tickets.take now id
    Round.change fun realm => { realm with tickets }
    match found with
    | some ticket => pure ticket
    | none => Round.refuse invalidTicket

def openTicket (server : Server) (permissions : List Permission) : Round Ticket := do
  let realm ← Round.realm
  let sourced ←
    Round.consult (server.strategy.openTicket realm.descriptions realm.issuers permissions)
  Round.change fun realm => { realm with issuers := sourced.issuers }
  pure sourced.ticket

/-- The ticket that a request is about. -/
def obtainTicket (server : Server) (now : Instant) : TokenRequest.Aim → Round Ticket
  | .resume id => server.takeTicket now id
  | .begin permissions => server.openTicket permissions

def verifyToken (server : Server) (now : Instant) (token : ClaimToken) : Round Claims := do
  let realm ← Round.realm
  let (claims, factories) := server.verifier.verify now token realm.factories
  Round.change fun realm => { realm with factories }
  match claims with
  | .ok claims => pure claims
  | .error error => Round.refuse error

/-- Verifies tokens and adds their claims to a ticket, one token after the other. -/
def addTokens (server : Server) (now : Instant) (ticket : Ticket) :
    List ClaimToken → Round Ticket
  | [] => pure ticket
  | token :: rest => do
    let claims ← server.verifyToken now token
    let grown ← Round.ofLogged (server.strategy.addClaims ticket claims)
    server.addTokens now grown rest

def resolveTicket (server : Server) (ticket : Ticket) : Round Resolution := do
  let realm ← Round.realm
  let (resolution, supply) ←
    Round.consult (server.strategy.resolve realm.descriptions realm.issuers realm.supply ticket)
  Round.change fun realm => { realm with supply }
  pure resolution

def putTicket (server : Server) (now : Instant) (id : String) (ticket : Ticket) : Round Unit :=
  match server.putOutage with
  | some error => Round.refuse error
  | none => do
    let realm ← Round.realm
    match realm.tickets.put? now id ticket with
    | some tickets => Round.change fun realm => { realm with tickets }
    | none => Round.halt .beyondCalendar

/-- Ends a round without a token. Nothing could ever help where there are no alternatives, met or
not, and no sources to open. -/
def suspend {α : Type} (server : Server) (now : Instant) (ticket : Ticket)
    (missing : List MissingClaims) : Round α :=
  let derivations := missing.filterMap MissingClaims.derivation?
  if ticket.required.isEmpty && derivations.isEmpty then Round.refuse .requestDenied
  else do
    let number ← Round.draw
    let id := Fresh.identifier number
    server.putTicket now id ticket
    Round.refuse (.needInfo id ⟨ticket.outstandingClaimTypes, derivations⟩)

/-- A round up to the resolution of its ticket. -/
def settle (server : Server) (now : Instant) (request : TokenRequest) : Round Resolved := do
  let checked ← Round.consult (Consult.lift request.check)
  let ticket ← server.obtainTicket now checked.aim
  let ticket ← server.addTokens now ticket checked.tokens
  match ← server.resolveTicket ticket with
  | .success granted => pure ⟨ticket, granted⟩
  | .failure missing => server.suspend now ticket missing

/-- The identifier by which another server may ask for a source: that of the first grant that opens
one. -/
def derivationId? (granted : List Permission) : Option String :=
  (granted.find? fun grant => grant.hasScope Scope.derivationRead).map (·.resourceId)

def issue (server : Server) (now : Instant) (payload : AccessToken) : Round TokenResponse := do
  let realm ← Round.realm
  let (issued, factories, supply) :=
    realm.factories.issue server.factory now realm.supply payload
  Round.change fun realm => { realm with factories, supply }
  let token ← Round.ofExcept issued
  pure ⟨token.text, token.type, derivationId? payload.permissions⟩

/-- The identifier of the contract for what a ticket was resolved to. -/
def contractFor (contracting : Contracting) (now : Instant) (resolved : Resolved) :
    Round String := do
  let number ← Round.draw
  let realm ← Round.realm
  let (contract, contracts) ← Round.ofExcept
    (contracting.contractFor realm.contracts resolved.ticket.provided resolved.granted now number)
  Round.change fun realm => { realm with contracts }
  pure contract.uid

def negotiate (server : Server) (now : Instant) (request : TokenRequest) :
    Round TokenResponse := do
  let resolved ← server.settle now request
  match server.contracting with
  | none => server.issue now ⟨resolved.granted, none⟩
  | some contracting => do
    let uid ← contractFor contracting now resolved
    server.issue now ⟨resolved.granted, some uid⟩

end Server

end UmaGrant
