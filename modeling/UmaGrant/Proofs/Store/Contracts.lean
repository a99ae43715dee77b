import UmaGrant.Contract.Drafting
import UmaGrant.Proofs.Dict
import UmaGrant.Proofs.Supply
/-! # What a store of contracts holds

A store that starts empty files each contract under its own identifier. A new contract takes the place of
no other as long as its identifier is of a number that has not been drawn before. What is looked for among
the contracts of an assignee is found if it is there.
-/

namespace UmaGrant

theorem Contracting.contractId_injective {first second : Nat}
    (same : contractId first = contractId second) : first = second :=
  Fresh.identifier_injective ((String.append_right_inj _).mp same)

namespace Contracts

variable {contracts others : Contracts} {contract : Contract} {number : Nat}

/-! ## Filed contracts -/

/-- Whether each contract is filed once, under its own identifier. -/
structure Filed (contracts : Contracts) : Prop where
  ordered : contracts.entries.Ordered
  own : ∀ uid contract, contracts.get? uid = some contract → contract.uid = uid

theorem filed_empty : empty.Filed := ⟨Dict.ordered_empty, fun _ _ found => nomatch found⟩

theorem Filed.put (filed : contracts.Filed) (contract : Contract) : (contracts.put contract).Filed := by
  refine ⟨filed.ordered.insert _ _, fun uid other found => ?_⟩
  rw [get?, Contracts.put, Dict.get?_insert] at found
  split at found
  case isTrue same =>
    cases found
    exact same.symm
  case isFalse => exact filed.own uid other found

/-! ## More contracts -/

/-- Whether a store has nothing that another one does not have. -/
def Within (contracts others : Contracts) : Prop :=
  ∀ uid contract, contracts.get? uid = some contract → others.get? uid = some contract

theorem Within.refl (contracts : Contracts) : contracts.Within contracts := fun _ _ found => found

theorem Within.trans {third : Contracts} (first : contracts.Within others)
    (second : others.Within third) : contracts.Within third :=
  fun uid contract found => second uid contract (first uid contract found)

theorem get?_put (contracts : Contracts) (contract : Contract) :
    (contracts.put contract).get? contract.uid = some contract := Dict.get?_insert_same _ _ _

theorem within_put (new : contracts.get? contract.uid = none) :
    contracts.Within (contracts.put contract) := by
  intro uid other found
  have differs : uid ≠ contract.uid := by
    rintro rfl
    rw [new] at found
    cases found
  exact (Dict.get?_insert_other _ differs _).trans found

/-! ## Identifiers to come -/

/-- Whether no contract has an identifier that is made of a number from some number on. -/
def FreeFrom (contracts : Contracts) (number : Nat) : Prop :=
  ∀ later, number ≤ later → contracts.get? (Contracting.contractId later) = none

theorem freeFrom_empty (number : Nat) : empty.FreeFrom number := fun _ _ => rfl

theorem FreeFrom.mono (free : contracts.FreeFrom number) {later : Nat} (onward : number ≤ later) :
    contracts.FreeFrom later := fun other above => free other (Nat.le_trans onward above)

/-- A new contract leaves the identifiers of all later numbers free. -/
theorem FreeFrom.put (free : contracts.FreeFrom number) {next : Nat}
    (named : contract.uid = Contracting.contractId number) (drawn : number < next) :
    (contracts.put contract).FreeFrom next := by
  intro later above
  have differs : Contracting.contractId later ≠ contract.uid := by
    intro same
    have number := Contracting.contractId_injective (same.trans named)
    omega
  exact (Dict.get?_insert_other _ differs _).trans (free later (by omega))

end Contracts

namespace Contracting

variable {contracts : Contracts} {claims : Claims} {granted : List Permission} {now : Instant}
  {contract : Contract}

/-- Whether a store has a contract of the assignee that covers a grant. -/
def Covered (contracts : Contracts) (claims : Claims) (granted : List Permission) (now : Instant) :
    Prop :=
  ∃ uid contract, contracts.get? uid = some contract ∧ contract.concerns (assignee claims) = true ∧
    contract.covers (assignee claims) (purpose? claims) granted now = true

/-- A contract that is used again is filed, is one of the assignee and covers the grant. -/
theorem of_reusable? (filed : contracts.Filed)
    (found : reusable? contracts claims granted now = some contract) :
    contracts.get? contract.uid = some contract ∧ contract.concerns (assignee claims) = true ∧
      contract.covers (assignee claims) (purpose? claims) granted now = true := by
  have covers := List.find?_some found
  obtain ⟨listed, concerns⟩ := List.mem_filter.mp (List.mem_of_find?_eq_some found)
  obtain ⟨⟨uid, _⟩, member, rfl⟩ := List.mem_map.mp listed
  have present : contracts.get? uid = some _ := filed.ordered.get?_of_mem member
  rw [filed.own uid _ present]
  exact ⟨present, concerns, covers⟩

/-- A contract is used again if and only if there is one that will do. -/
theorem reusable?_isSome_iff (filed : contracts.Filed) :
    (reusable? contracts claims granted now).isSome = true ↔ Covered contracts claims granted now := by
  constructor
  · intro found
    obtain ⟨contract, found⟩ := Option.isSome_iff_exists.mp found
    obtain ⟨present, concerns, covers⟩ := of_reusable? filed found
    exact ⟨_, contract, present, concerns, covers⟩
  · rintro ⟨uid, contract, present, concerns, covers⟩
    refine List.find?_isSome.mpr ⟨contract, List.mem_filter.mpr ⟨?_, concerns⟩, covers⟩
    exact List.mem_map.mpr ⟨_, Dict.mem_entries_of_get? present, rfl⟩

end Contracting

end UmaGrant
