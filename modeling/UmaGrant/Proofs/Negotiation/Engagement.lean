import UmaGrant.Proofs.Contract
import UmaGrant.Proofs.Negotiation.Forfeit
import UmaGrant.Proofs.Store.Contracts
/-! # Every token under a contract

A server that grants under contracts names one in every token. It names a contract that is stored and
covers what the token says, one of those that were there if any of them will do, and else one that it has
drawn up for this token.
-/

namespace UmaGrant

namespace Server

variable {server : Server} {now : Instant} {contracting : Contracting} {resolved : Resolved}

/-- Under contracts, what a token says is what was granted and the contract for it. -/
theorem run_draft (contracted : server.contracting = some contracting) (resolved : Resolved)
    (realm : Realm) :
    (server.draft now resolved).run realm =
      let passage := (contractFor contracting now resolved).run realm
      ⟨passage.outcome.map fun uid => ⟨resolved.granted, some uid⟩, passage.realm, passage.log⟩ := by
  simp only [draft, contracted]
  rw [Round.run_bind]
  dsimp only
  cases ((contractFor contracting now resolved).run realm).outcome with
  | error halt => rfl
  | ok uid =>
    change Passage.mk _ _ (_ ++ []) = _
    rw [List.append_nil]
    rfl

end Server

namespace Turn

variable {server : Server} {turn : Turn} {payload : AccessToken} {contracting : Contracting}
  {ticket : Ticket} {granted : List Permission} {contract : Contract}

theorem contracts_weighing (server : Server) (turn : Turn) :
    (turn.weighing server).realm.contracts = turn.realm.contracts :=
  (server.preserves_contracts turn.now turn.request turn.realm.contracts).weigh turn.realm rfl

/-- What a turn comes to that has weighed its ticket with success. -/
theorem grant_of_weighing
    (weighed : (turn.weighing server).outcome = .ok (ticket, .success granted)) :
    ((server.grant turn.now turn.request).run turn.realm).outcome =
        ((server.draft turn.now ⟨ticket, granted⟩).run (turn.weighing server).realm).outcome ∧
      ((server.grant turn.now turn.request).run turn.realm).realm =
        ((server.draft turn.now ⟨ticket, granted⟩).run (turn.weighing server).realm).realm := by
  change ((server.weigh turn.now turn.request).run turn.realm).outcome = _ at weighed
  rw [Server.grant, Server.settle_eq, bind_assoc, Round.run_bind, weighed]
  simp only [Server.settleWeighed, pure_bind]
  exact ⟨rfl, rfl⟩

/-- Issuing the token does nothing more to the contracts. -/
theorem Issues.contracts_left (issued : turn.Issues server payload) :
    (turn.left server).contracts =
      ((server.grant turn.now turn.request).run turn.realm).realm.contracts := by
  rw [left, passage, Server.negotiate_eq_grant, Round.run_bind, issued.1]
  dsimp only
  rw [Server.run_issue]

/-- A token is issued under a contract that was there, and then the contracts stay as they are, or under
one that is drawn up for it. -/
theorem Issues.contract_cases (contracted : server.contracting = some contracting)
    (issued : turn.Issues server payload) :
    ∃ ticket contract,
      (turn.weighing server).outcome = .ok (ticket, .success payload.permissions) ∧
        payload.contract = some contract.uid ∧
        (Contracting.reusable? turn.realm.contracts ticket.provided payload.permissions turn.now =
              some contract ∧
            (turn.left server).contracts = turn.realm.contracts ∨
          turn.DrawsUp server ticket payload.permissions contract) := by
  obtain ⟨ticket, weighed⟩ := issued.weighing
  have start := turn.contracts_weighing server
  have left := issued.contracts_left
  obtain ⟨outcome, realm⟩ := grant_of_weighing weighed
  obtain ⟨granting, response, answered⟩ := issued
  rw [realm] at left
  rw [outcome] at granting
  rw [Server.run_draft contracted, Server.run_contractFor, start] at granting left
  dsimp only at granting left
  cases reused : Contracting.reusable? turn.realm.contracts ticket.provided payload.permissions
      turn.now with
  | some contract =>
    simp only [reused] at granting left
    have named := congrArg AccessToken.contract (Except.ok.inj granting)
    exact ⟨ticket, contract, weighed, named.symm, Or.inl ⟨reused, left⟩⟩
  | none =>
    cases drafted : contracting.draft ticket.provided payload.permissions turn.now
        (Contracting.contractId (turn.weighing server).realm.supply.next) with
    | error halt =>
      simp only [reused, drafted] at granting
      cases granting
    | ok contract =>
      simp only [reused, drafted] at granting left
      have named := congrArg AccessToken.contract (Except.ok.inj granting)
      refine ⟨ticket, contract, weighed, named.symm, .inr ⟨weighed, reused, ⟨contracting, contracted,
        drafted⟩, left, fun halt failed => ?_⟩⟩
      cases answered.symm.trans failed

/-! ## Contracts that are drawn up -/

/-- A contract that is drawn up is made of a number that the turn has drawn. -/
theorem DrawsUp.drawn (drawsUp : turn.DrawsUp server ticket granted contract) :
    ∃ number, contract.uid = Contracting.contractId number ∧ turn.realm.supply.next ≤ number ∧
      number < (turn.left server).supply.next := by
  obtain ⟨contracting, contracted, drafted⟩ := drawsUp.drafted
  refine ⟨_, (Contracting.draft_permits drafted).1, (turn.weighing_continues server).supply, ?_⟩
  have left := (of_weighing_ok drawsUp.weighed).2
  change _ = ((server.draft turn.now ⟨ticket, granted⟩ >>= server.issue turn.now).run _).realm at left
  rw [left, Round.run_bind, Server.run_draft contracted, Server.run_contractFor]
  have missing := drawsUp.missing
  rw [← turn.contracts_weighing server] at missing
  simp only [missing, drafted]
  change _ < ((server.issue turn.now _).run _).realm.supply.next
  rw [Server.run_issue]
  exact TokenFactories.supply_issue rfl

/-- So it takes the place of no other. -/
theorem DrawsUp.new (drawsUp : turn.DrawsUp server ticket granted contract)
    (free : turn.realm.contracts.FreeFrom turn.realm.supply.next) :
    turn.realm.contracts.get? contract.uid = none := by
  obtain ⟨number, named, above, _⟩ := drawsUp.drawn
  rw [named]
  exact free number above

/-- It covers what has been granted for as long as contracts last. -/
theorem DrawsUp.covers_iff (drawsUp : turn.DrawsUp server ticket granted contract)
    (contracted : server.contracting = some contracting) {later : Instant} :
    contract.covers (Contracting.assignee ticket.provided) (Contracting.purpose? ticket.provided) granted
        later = true ↔
      (Permission.Scoped granted → later.nanos < turn.now.nanos + contracting.lifetime) := by
  obtain ⟨others, same, drafted⟩ := drawsUp.drafted
  cases contracted.symm.trans same
  exact Contracting.draft_covers drafted

/-- What else it covers at any time, if that gives a scope, it covers for as long as contracts last. -/
theorem DrawsUp.covers_lasting (drawsUp : turn.DrawsUp server ticket granted contract)
    (contracted : server.contracting = some contracting) {assignee : String} {purpose : Option Json}
    {others : List Permission} {now later : Instant} (given : Permission.Scoped others)
    (covers : contract.covers assignee purpose others now = true) :
    contract.covers assignee purpose others later = true ↔
      later.nanos < turn.now.nanos + contracting.lifetime := by
  obtain ⟨_, same, drafted⟩ := drawsUp.drafted
  cases contracted.symm.trans same
  constructor
  · exact Contracting.lasts_of_draft_covers drafted given
  · intro lasting
    refine Contract.covers_of_isLive (fun permission member _ => ?_) covers
    exact ((Contracting.draft_permission drafted member).2 later).mpr lasting

/-- A turn leaves the contracts filed, and those that were there stay. The identifiers that are still to
come stay free. -/
theorem contracts_step (server : Server) (turn : Turn) (filed : turn.realm.contracts.Filed)
    (free : turn.realm.contracts.FreeFrom turn.realm.supply.next) :
    (turn.left server).contracts.Filed ∧
      (turn.left server).contracts.FreeFrom (turn.left server).supply.next ∧
      turn.realm.contracts.Within (turn.left server).contracts := by
  rcases turn.contracts_cases server with same | ⟨ticket, granted, contract, drawsUp⟩
  · rw [same]
    exact ⟨filed, free.mono (turn.supply_left server), .refl _⟩
  · obtain ⟨number, named, above, drawn⟩ := drawsUp.drawn
    rw [drawsUp.stored]
    exact ⟨filed.put contract, (free.mono above).put named drawn, Contracts.within_put (drawsUp.new free)⟩

/-- A contract that a turn leaves was there before, or the turn has drawn it up. -/
theorem contract_origin {uid : String}
    (found : (turn.left server).contracts.get? uid = some contract) :
    turn.realm.contracts.get? uid = some contract ∨
      ∃ ticket granted, turn.DrawsUp server ticket granted contract := by
  rcases turn.contracts_cases server with same | ⟨ticket, granted, other, drawsUp⟩
  · exact .inl (same ▸ found)
  · rw [drawsUp.stored, Contracts.get?, Contracts.put, Dict.get?_insert] at found
    split at found
    case isTrue =>
      cases found
      exact .inr ⟨ticket, granted, drawsUp⟩
    case isFalse => exact .inl found

/-- The contract of a token is stored and covers what the token says. Either one of those that were there
would do, and then there is no other, or it has been drawn up. -/
theorem Issues.under_contract (contracted : server.contracting = some contracting)
    (positive : 0 < contracting.lifetime) (filed : turn.realm.contracts.Filed)
    (issued : turn.Issues server payload) :
    ∃ ticket contract,
      (turn.weighing server).outcome = .ok (ticket, .success payload.permissions) ∧
        payload.contract = some contract.uid ∧
        (turn.left server).contracts.get? contract.uid = some contract ∧
        contract.covers (Contracting.assignee ticket.provided) (Contracting.purpose? ticket.provided)
          payload.permissions turn.now = true ∧
        (Contracting.Covered turn.realm.contracts ticket.provided payload.permissions turn.now ∧
            (turn.left server).contracts = turn.realm.contracts ∨
          turn.DrawsUp server ticket payload.permissions contract) := by
  obtain ⟨ticket, contract, weighed, named, ⟨reused, left⟩ | drawsUp⟩ := issued.contract_cases contracted
  · obtain ⟨present, concerns, covers⟩ := Contracting.of_reusable? filed reused
    exact ⟨ticket, contract, weighed, named, left ▸ present, covers,
      .inl ⟨⟨_, contract, present, concerns, covers⟩, left⟩⟩
  · refine ⟨ticket, contract, weighed, named, ?_, (drawsUp.covers_iff contracted).mpr fun _ => ?_,
      .inr drawsUp⟩
    · rw [drawsUp.stored]
      exact Contracts.get?_put _ _
    · exact Int.lt_add_of_pos_right _ positive

/-- No contract is drawn up where one that was there will do. -/
theorem DrawsUp.not_covered (filed : turn.realm.contracts.Filed)
    (drawsUp : turn.DrawsUp server ticket granted contract) :
    ¬ Contracting.Covered turn.realm.contracts ticket.provided granted turn.now := by
  rw [← Contracting.reusable?_isSome_iff filed, drawsUp.missing]
  exact Bool.false_ne_true

/-- A turn whose grant is covered leaves the contracts as they are, and is under one of them. -/
theorem Issues.reuses (contracted : server.contracting = some contracting)
    (positive : 0 < contracting.lifetime) (filed : turn.realm.contracts.Filed)
    (issued : turn.Issues server payload)
    (weighed : (turn.weighing server).outcome = .ok (ticket, .success payload.permissions))
    (covered : Contracting.Covered turn.realm.contracts ticket.provided payload.permissions turn.now) :
    (turn.left server).contracts = turn.realm.contracts ∧
      ∃ reused, payload.contract = some reused.uid ∧
        turn.realm.contracts.get? reused.uid = some reused ∧
        reused.covers (Contracting.assignee ticket.provided) (Contracting.purpose? ticket.provided)
          payload.permissions turn.now = true := by
  obtain ⟨own, reused, weighedOwn, named, stored, covers, ending⟩ :=
    issued.under_contract contracted positive filed
  cases weighed.symm.trans weighedOwn
  rcases ending with ⟨-, left⟩ | drawsUp
  · exact ⟨left, reused, named, left ▸ stored, covers⟩
  · exact absurd covered (drawsUp.not_covered filed)

/-- Every token is issued under a contract that is stored and covers what the token says at that time.
All contracts that were there stay. If one of them is with the assignee and covers that, none is added.
Else one is added, which goes on to cover it until its lifetime is over, and not any longer if any scope
has been granted. -/
theorem issued_under_contract (contracted : server.contracting = some contracting)
    (positive : 0 < contracting.lifetime) (filed : turn.realm.contracts.Filed)
    (free : turn.realm.contracts.FreeFrom turn.realm.supply.next)
    (issued : turn.Issues server payload) :
    ∃ ticket contract,
      (turn.weighing server).outcome = .ok (ticket, .success payload.permissions) ∧
        payload.contract = some contract.uid ∧
        (turn.left server).contracts.get? contract.uid = some contract ∧
        contract.covers (Contracting.assignee ticket.provided) (Contracting.purpose? ticket.provided)
          payload.permissions turn.now = true ∧
        turn.realm.contracts.Within (turn.left server).contracts ∧
        (Contracting.Covered turn.realm.contracts ticket.provided payload.permissions turn.now →
          (turn.left server).contracts = turn.realm.contracts) ∧
        (¬ Contracting.Covered turn.realm.contracts ticket.provided payload.permissions turn.now →
          turn.realm.contracts.get? contract.uid = none ∧
            (turn.left server).contracts = turn.realm.contracts.put contract ∧
            (turn.left server).contracts.size = turn.realm.contracts.size + 1 ∧
            ∀ later : Instant,
              contract.covers (Contracting.assignee ticket.provided)
                  (Contracting.purpose? ticket.provided) payload.permissions later = true ↔
                (Permission.Scoped payload.permissions →
                  later.nanos < turn.now.nanos + contracting.lifetime)) := by
  obtain ⟨ticket, contract, weighed, named, stored, covers, ending⟩ :=
    issued.under_contract contracted positive filed
  refine ⟨ticket, contract, weighed, named, stored, covers, (turn.contracts_step server filed free).2.2,
    fun covered => ?_, fun missing => ?_⟩
  · rcases ending with ⟨-, left⟩ | drawsUp
    · exact left
    · exact absurd covered (drawsUp.not_covered filed)
  · rcases ending with ⟨covered, -⟩ | drawsUp
    · exact absurd covered missing
    · have new := drawsUp.new free
      refine ⟨new, drawsUp.stored, ?_, fun later => drawsUp.covers_iff contracted⟩
      rw [drawsUp.stored]
      exact Dict.size_insert_of_new new contract

end Turn

/-! ## An archive that lends under contract -/

namespace Archive

def contracting : Contracting := ⟨"https://archive.example", Contracting.defaultLifetime⟩

def server : Server :=
  { Report.server with strategy := ⟨⟨.judgement, .everyone⟩, none⟩, contracting := some contracting }

def realm : Realm := { Report.realm with descriptions := .empty }

/-- A letter is asked for. -/
def asking (now : Instant) (realm : Realm) : Turn :=
  ⟨now, .forPermissions [.of "letter" [Scope.read]], realm⟩

def payload : AccessToken := ⟨[.of "letter" [Scope.read]], some (Contracting.contractId 0)⟩

theorem asking_issues : (asking ⟨0⟩ realm).Issues server payload := ⟨rfl, _, rfl⟩

end Archive

namespace Turn

/-- The first letter is lent under a new contract, for half an hour. -/
theorem issued_under_contract_letter :
    ∃ contract : Contract,
      ((Archive.asking ⟨0⟩ Archive.realm).left Archive.server).contracts.get?
          (Contracting.contractId 0) = some contract ∧
        contract.covers Contracting.anonymous none [.of "letter" [Scope.read]]
          ⟨Lifetime.minutes 29⟩ = true ∧
        contract.covers Contracting.anonymous none [.of "letter" [Scope.read]]
          ⟨Lifetime.minutes 30⟩ = false := by
  obtain ⟨ticket, contract, weighed, named, stored, -, -, -, added⟩ :=
    @issued_under_contract _ (Archive.asking ⟨0⟩ Archive.realm) _ _ rfl (by decide)
      Contracts.filed_empty (Contracts.freeFrom_empty _) Archive.asking_issues
  cases weighed
  obtain ⟨-, -, -, covers⟩ := added fun ⟨_, _, found, _⟩ => nomatch found
  have lends : Permission.Scoped Archive.payload.permissions :=
    ⟨_, List.mem_singleton_self _, List.cons_ne_nil _ _⟩
  refine ⟨contract, ?_, (covers ⟨Lifetime.minutes 29⟩).mpr fun _ => by decide, ?_⟩
  · rw [Option.some.inj named]
    exact stored
  · exact Bool.eq_false_iff.mpr fun late =>
      absurd ((covers ⟨Lifetime.minutes 30⟩).mp late lends) (by decide)

end Turn

end UmaGrant
