import UmaGrant.Contract
/-! # Stored contracts

Contracts by their identifiers. A contract takes the place of one with the same identifier.
-/

namespace UmaGrant

structure Contracts where
  entries : Dict Contract

namespace Contracts

def empty : Contracts := ⟨.empty⟩

def put (contracts : Contracts) (contract : Contract) : Contracts :=
  ⟨contracts.entries.insert contract.uid contract⟩

def get? (contracts : Contracts) (uid : String) : Option Contract := contracts.entries.get? uid

/-- The contracts that permit something to an assignee. A store gives them in an order of its own; to list
them by identifier is a choice. -/
def forAssignee (contracts : Contracts) (assignee : String) : List Contract :=
  contracts.entries.values.filter fun contract => contract.concerns assignee

def size (contracts : Contracts) : Nat := contracts.entries.size

end Contracts

end UmaGrant
