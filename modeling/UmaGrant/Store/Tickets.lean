import UmaGrant.Ticket
import UmaGrant.Time.Instant
/-! # Stored tickets

A ticket between two rounds of a negotiation lies in a store under an identifier. Taking it out
removes it, so an identifier is good for one round, and only before the ticket expires.
-/

namespace UmaGrant

/-- A ticket and the instant from which on it is worthless. -/
structure StoredTicket where
  ticket : Ticket
  expiresAt : Instant

structure Tickets where
  lifetime : Lifetime
  entries : Dict StoredTicket

namespace Tickets

/-- The lifetime of tickets where none is set: half an hour. -/
def defaultLifetime : Lifetime := Lifetime.minutes 30

def empty (lifetime : Lifetime) : Tickets := ⟨lifetime, .empty⟩

/-- How many tickets are stored, expired ones included. -/
def size (tickets : Tickets) : Nat := tickets.entries.size

/-- Stores a ticket, in place of one with the same identifier. Fails where the date of its expiry
cannot be represented. -/
def put? (tickets : Tickets) (now : Instant) (id : String) (ticket : Ticket) : Option Tickets :=
  (now.after? tickets.lifetime).map fun expiresAt =>
    { tickets with entries := tickets.entries.insert id ⟨ticket, expiresAt⟩ }

def isLive (now : Instant) (stored : StoredTicket) : Bool := now.nanos < stored.expiresAt.nanos

/-- Takes a ticket out. It is gone from the store even if it has expired. -/
def take (tickets : Tickets) (now : Instant) (id : String) : Option Ticket × Tickets :=
  (((tickets.entries.get? id).filter (isLive now)).map (·.ticket),
    { tickets with entries := tickets.entries.erase id })

/-- Drops expired tickets; also says how many. -/
def sweep (tickets : Tickets) (now : Instant) : Nat × Tickets :=
  let live := tickets.entries.filter fun _ stored => isLive now stored
  (tickets.entries.size - live.size, { tickets with entries := live })

end Tickets

end UmaGrant
