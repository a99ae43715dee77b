import UmaGrant.Consultation
import UmaGrant.Halt
import UmaGrant.Store.Contracts
import UmaGrant.Store.Tickets
import UmaGrant.Strategy.Derivation
import UmaGrant.Token.Factory
/-! # Rounds

A round is a computation on the realm of a server: its stores, the token factories, and the supply
of fresh values. It records whom it asks. A round that ends early keeps the changes that it has made
by then.
-/

namespace UmaGrant

/-- All that a round may read and change. -/
structure Realm where
  tickets : Tickets
  issuers : Issuers
  contracts : Contracts
  descriptions : Descriptions
  /-- The token factories of all servers. -/
  factories : TokenFactories
  supply : Supply

/-- The end of a round: what came of it, the realm that it leaves, and whom it asked. -/
structure Passage (α : Type) where
  outcome : Except Halt α
  realm : Realm
  log : List Consultation

/-- A computation on a realm. -/
def Round (α : Type) := Realm → Passage α

namespace Round

variable {α β : Type}

def run (round : Round α) (realm : Realm) : Passage α := round realm

def pure (value : α) : Round α := fun realm => ⟨.ok value, realm, []⟩

/-- Goes on after a round unless that has ended early. -/
def bind (first : Round α) (next : α → Round β) : Round β := fun realm =>
  let passage := first realm
  match passage.outcome with
  | .error halt => ⟨.error halt, passage.realm, passage.log⟩
  | .ok value =>
    let second := next value passage.realm
    ⟨second.outcome, second.realm, passage.log ++ second.log⟩

instance : Monad Round where
  pure := Round.pure
  bind := Round.bind

def realm : Round Realm := fun realm => ⟨.ok realm, realm, []⟩

def change (update : Realm → Realm) : Round Unit := fun realm => ⟨.ok (), update realm, []⟩

def halt (reason : Halt) : Round α := fun realm => ⟨.error reason, realm, []⟩

def refuse (error : GrantError) : Round α := halt (.refused error)

def ofExcept : Except Halt α → Round α
  | .ok value => Round.pure value
  | .error reason => halt reason

/-- Goes on with the outcome of a consultation. -/
def consult (computation : Consult α) : Round α := fun realm =>
  ⟨match computation.outcome with
    | .ok value => .ok value
    | .error error => .error (.refused error),
    realm, computation.log⟩

/-- Goes on with the outcome of a consultation that cannot fail. -/
def ofLogged (computation : Logged α) : Round α := fun realm =>
  ⟨.ok computation.value, realm, computation.log⟩

/-- A number that was not used before. -/
def draw : Round Nat := fun realm =>
  let (number, supply) := realm.supply.draw
  ⟨.ok number, { realm with supply }, []⟩

end Round

end UmaGrant
