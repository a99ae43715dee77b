import UmaGrant.Strategy.Derivation
import UmaGrant.Strategy.Settlement
/-! # Strategies

A strategy leads a ticket from its request to its resolution. With a codec for synthetic
identifiers it also sees to derived resources: it hands the ticket to its settlement without the
sources, and lets a success through only when every source has been opened.
-/

namespace UmaGrant

structure Strategy where
  settlement : Settlement
  /-- The codec of synthetic identifiers, if the strategy knows derived resources. -/
  codec : Option IdCodec

namespace Strategy

/-- A ticket for permissions, and the servers behind its sources. -/
def openTicket (strategy : Strategy) (descriptions : Descriptions) (issuers : Issuers)
    (permissions : List Permission) : Consult Sourced :=
  match strategy.codec with
  | none => do
    let ticket ← strategy.settlement.openTicket descriptions permissions
    pure ⟨ticket, issuers⟩
  | some codec => do
    let unmasked := permissions.map (Derivation.unmask codec)
    let ticket ← strategy.settlement.openTicket descriptions unmasked
    let ticket := { ticket with aliases := Derivation.aliases codec permissions }
    Consult.lift (Sourced.demandFor descriptions ⟨ticket, issuers⟩ unmasked)

def addClaims (strategy : Strategy) (ticket : Ticket) (claims : Claims) : Logged Ticket :=
  match strategy.codec with
  | none => strategy.settlement.addClaims ticket claims
  | some codec =>
    strategy.settlement.addClaims (Derivation.proveAll ticket claims)
      (Derivation.unmaskClaims codec claims)

/-- What becomes of a ticket: the resolution of its settlement, held up by sources that are not
open. Only a success draws from the supply. -/
def resolve (strategy : Strategy) (descriptions : Descriptions) (issuers : Issuers)
    (supply : Supply) (ticket : Ticket) : Consult (Resolution × Supply) :=
  match strategy.codec with
  | none => do
    let resolution ← strategy.settlement.resolve descriptions ticket
    pure (resolution, supply)
  | some codec => do
    let resolution ←
      strategy.settlement.resolve descriptions (Derivation.withoutSources ticket)
    let outstanding ← Consult.lift (Derivation.outstanding issuers ticket)
    match resolution, outstanding with
    | .success granted, [] =>
      let (masked, supply) := Derivation.maskAll codec ticket supply granted
      pure (.success masked, supply)
    | .success _, claims => pure (.failure (claims.map .derivation), supply)
    | .failure missing, claims => pure (.failure (missing ++ claims.map .derivation), supply)

end Strategy

end UmaGrant
