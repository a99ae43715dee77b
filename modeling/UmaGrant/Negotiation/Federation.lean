import UmaGrant.Negotiation.Server
/-! # Servers side by side

Servers have stores of their own. They share a supply of fresh values, and a server may accept the
access tokens of another one, so the token factories of all of them lie together.
-/

namespace UmaGrant

/-- A server and its own stores. -/
structure Member where
  server : Server
  tickets : Tickets
  issuers : Issuers
  contracts : Contracts
  descriptions : Descriptions

/-- Servers and what they share. -/
structure Federation where
  members : Dict Member
  factories : TokenFactories
  supply : Supply

namespace Member

def new (server : Server) (tickets : Tickets) (descriptions : Descriptions) : Member :=
  ⟨server, tickets, .empty, .empty, descriptions⟩

def withStores (member : Member) (realm : Realm) : Member :=
  { member with
    tickets := realm.tickets
    issuers := realm.issuers
    contracts := realm.contracts
    descriptions := realm.descriptions }

end Member

namespace Federation

def empty (supply : Supply) : Federation := ⟨.empty, .empty, supply⟩

def realmOf (federation : Federation) (member : Member) : Realm :=
  ⟨member.tickets, member.issuers, member.contracts, member.descriptions, federation.factories,
    federation.supply⟩

/-- The federation after a member has worked in a realm. -/
def withRealm (federation : Federation) (name : String) (member : Member) (realm : Realm) :
    Federation :=
  ⟨federation.members.insert name (member.withStores realm), realm.factories, realm.supply⟩

/-- Lets a member work. What it changes stays changed, whatever the outcome. -/
def run {α : Type} (federation : Federation) (name : String) (work : Server → Round α) :
    Option (Except Halt α × List Consultation × Federation) :=
  (federation.members.get? name).map fun member =>
    let passage := work member.server (federation.realmOf member)
    (passage.outcome, passage.log, federation.withRealm name member passage.realm)

end Federation

namespace Server

/-- What an access token of the server stands for. -/
def introspect (server : Server) (now : Instant) (token : String) : Round AccessToken := do
  let realm ← Round.realm
  let (payload, factories) := realm.factories.redeem server.factory now token
  Round.change fun realm => { realm with factories }
  match payload with
  | .ok payload => pure payload
  | .error error => Round.refuse error

/-- Drops expired tickets; says how many. -/
def sweepTickets (now : Instant) : Round Nat := do
  let realm ← Round.realm
  let (dropped, tickets) := realm.tickets.sweep now
  Round.change fun realm => { realm with tickets }
  pure dropped

/-- Drops expired reference tokens; says how many, if the server issues such. -/
def sweepTokens (server : Server) (now : Instant) : Round (Option Nat) := do
  let realm ← Round.realm
  match realm.factories.get? server.factory with
  | some (.reference table) => do
    let (dropped, table) := table.sweep now
    Round.change fun realm =>
      { realm with factories := realm.factories.insert server.factory (.reference table) }
    pure (some dropped)
  | _ => pure none

/-- Gives the server a fresh signing key, if it signs tokens; says its identifier. -/
def rotateKey (server : Server) : Round (Option String) := do
  let realm ← Round.realm
  match realm.factories.get? server.factory with
  | some (.signed tokens ring) => do
    let number ← Round.draw
    let ring := ring.rotate number
    Round.change fun realm =>
      { realm with factories := realm.factories.insert server.factory (.signed tokens ring) }
    pure (some ring.current.id)
  | _ => pure none

def describe (id : String) (description : Description) : Round Unit :=
  Round.change fun realm =>
    { realm with descriptions := realm.descriptions.describe id description }

def putContract (contract : Contract) : Round Unit :=
  Round.change fun realm => { realm with contracts := realm.contracts.put contract }

end Server

end UmaGrant
