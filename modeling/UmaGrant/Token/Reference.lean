import UmaGrant.GrantError
import UmaGrant.Supply
import UmaGrant.Time.Instant
import UmaGrant.Token.AccessToken
/-! # Reference tokens

A reference token is a random credential that means nothing by itself. The server that issued it
looks up what it stands for, until it expires; the table drops it when it is shown too late or when
it is swept.
-/

namespace UmaGrant

/-- What a credential stands for. -/
structure StoredToken where
  payload : AccessToken
  expiresAt : Instant
deriving DecidableEq, Repr

/-- The table behind reference tokens. -/
structure ReferenceTokens where
  lifetime : Lifetime
  entries : Dict StoredToken

namespace ReferenceTokens

/-- The lifetime of access tokens where none is set: half an hour. -/
def defaultLifetime : Lifetime := Lifetime.minutes 30

def empty (lifetime : Lifetime) : ReferenceTokens := ⟨lifetime, .empty⟩

/-- Issues a token under a fresh credential. Fails where the date of its expiry cannot be
represented. -/
def issue? (table : ReferenceTokens) (now : Instant) (number : Nat) (payload : AccessToken) :
    Option (IssuedToken × ReferenceTokens) :=
  (now.after? table.lifetime).map fun expiresAt =>
    let credential := Fresh.credential number
    (⟨credential, bearer⟩,
      { table with entries := table.entries.insert credential ⟨payload, expiresAt⟩ })

def isLive (now : Instant) (stored : StoredToken) : Bool := now.nanos < stored.expiresAt.nanos

/-- What a credential stands for. An expired one is dropped. -/
def redeem (table : ReferenceTokens) (now : Instant) (credential : String) :
    Except GrantError AccessToken × ReferenceTokens :=
  match table.entries.get? credential with
  | none => (.error (.invalidToken "Unknown access token"), table)
  | some stored =>
    if isLive now stored then (.ok stored.payload, table)
    else
      (.error (.invalidToken "Access token expired"),
        { table with entries := table.entries.erase credential })

/-- Drops expired tokens; also says how many. -/
def sweep (table : ReferenceTokens) (now : Instant) : Nat × ReferenceTokens :=
  let live := table.entries.filter fun _ stored => isLive now stored
  (table.entries.size - live.size, { table with entries := live })

end ReferenceTokens

end UmaGrant
