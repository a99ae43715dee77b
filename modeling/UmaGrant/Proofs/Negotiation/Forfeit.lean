import UmaGrant.Proofs.Negotiation.Lasting
import UmaGrant.Proofs.Negotiation.Ledger
/-! # What a breakdown costs

A ticket leaves the store before anything is done with it. So a turn that breaks down, because a claim
token is not accepted, a part of the server fails or no token can be issued, has used up the ticket
that it names. It has used up nothing else of the store, and the contracts are as they were, but for a
new one that had been drawn up when the token could not be issued.
-/

namespace UmaGrant

/-- Whether a turn has broken down: it ends, and not with an answer that belongs to a negotiation. -/
def Halt.isBreakdown : Halt → Bool
  | .refused (.needInfo _ _) | .refused .requestDenied | .refused (.invalidTicket _) => false
  | .refused _ | .beyondCalendar => true

namespace Server

theorem preserves_contracts (server : Server) (now : Instant) (request : TokenRequest)
    (contracts : Contracts) :
    server.Preserves now request fun realm => realm.contracts = contracts where
  takes _ _ _ holding := holding
  opens _ _ _ _ _ holding _ := holding
  verifies _ _ _ _ _ holding := holding
  draws _ _ _ holding := holding
  stores _ _ _ _ holding := holding
  issues _ _ _ _ _ _ holding := holding

private theorem contracts_issue (server : Server) (now : Instant) (payload : AccessToken)
    (realm : Realm) : ((server.issue now payload).run realm).realm.contracts = realm.contracts :=
  (server.preserves_contracts now .blank realm.contracts).issue payload realm rfl

/-- Granting leaves the contracts alone unless one is drawn up, and then only the token is to come. -/
private theorem award_contracts (server : Server) (now : Instant) (ticket : Ticket)
    (granted : List Permission) (realm : Realm) :
    let passage := (server.conclude now (ticket, .success granted)).run realm
    passage.realm.contracts = realm.contracts ∨
      ∃ contracting contract, server.contracting = some contracting ∧
        Contracting.reusable? realm.contracts ticket.provided granted now = none ∧
        contracting.draft ticket.provided granted now
          (Contracting.contractId realm.supply.next) = .ok contract ∧
        passage.realm.contracts = realm.contracts.put contract ∧
        ∀ halt, passage.outcome = .error halt → ∃ supply,
          (realm.factories.issue server.factory now supply ⟨granted, some contract.uid⟩).1 =
            .error halt := by
  intro passage
  cases contracted : server.contracting with
  | none =>
    have same : passage = (server.issue now ⟨granted, none⟩).run realm := by
      change ((server.draft now ⟨ticket, granted⟩ >>= server.issue now).run realm) = _
      rw [draft, contracted]
      rfl
    exact .inl (same ▸ contracts_issue server now _ realm)
  | some contracting =>
    have same : passage = (contractFor contracting now ⟨ticket, granted⟩ >>= fun uid =>
        server.issue now ⟨granted, some uid⟩).run realm := by
      change ((server.draft now ⟨ticket, granted⟩ >>= server.issue now).run realm) = _
      rw [draft, contracted]
      simp only [bind_assoc, pure_bind]
    rw [Round.run_bind, run_contractFor] at same
    dsimp only at same
    cases reused : Contracting.reusable? realm.contracts ticket.provided granted now with
    | some contract =>
      simp only [reused] at same
      exact .inl (same ▸ contracts_issue server now _ _)
    | none =>
      cases drafted : contracting.draft ticket.provided granted now
          (Contracting.contractId realm.supply.next) with
      | error halt =>
        simp only [reused, drafted] at same
        exact .inl (same ▸ rfl)
      | ok contract =>
        simp only [reused, drafted] at same
        refine .inr ⟨contracting, contract, rfl, rfl, drafted, ?_, fun halt failed => ?_⟩
        · exact same ▸ contracts_issue server now _ _
        · rw [same] at failed
          dsimp only at failed
          rw [run_issue] at failed
          refine ⟨⟨realm.supply.next + 1⟩, ?_⟩
          dsimp only at failed
          cases issued : (realm.factories.issue server.factory now ⟨realm.supply.next + 1⟩
              ⟨granted, some contract.uid⟩).1 <;> rw [issued] at failed <;> cases failed
          rfl

end Server

namespace Turn

variable {server : Server} {turn : Turn} {id : String}

/-- Whether a turn draws up a contract: its ticket has been resolved, and no contract that was there
covers what has been granted. -/
structure DrawsUp (server : Server) (turn : Turn) (ticket : Ticket) (granted : List Permission)
    (contract : Contract) : Prop where
  weighed : (turn.weighing server).outcome = .ok (ticket, .success granted)
  missing : Contracting.reusable? turn.realm.contracts ticket.provided granted turn.now = none
  drafted : ∃ contracting, server.contracting = some contracting ∧
    contracting.draft ticket.provided granted turn.now
      (Contracting.contractId (turn.weighing server).realm.supply.next) = .ok contract
  stored : (turn.left server).contracts = turn.realm.contracts.put contract
  /-- All that can still go wrong then is that no token is issued. -/
  issuing : ∀ halt, turn.answer server = .error halt → ∃ supply,
    ((turn.weighing server).realm.factories.issue server.factory turn.now supply
      ⟨granted, some contract.uid⟩).1 = .error halt

/-- A turn leaves the contracts alone unless it draws one up. -/
theorem contracts_cases (server : Server) (turn : Turn) :
    (turn.left server).contracts = turn.realm.contracts ∨
      ∃ ticket granted contract, turn.DrawsUp server ticket granted contract := by
  have preserves := server.preserves_contracts turn.now turn.request turn.realm.contracts
  have weighing : (turn.weighing server).realm.contracts = turn.realm.contracts :=
    preserves.weigh turn.realm rfl
  cases ended : (turn.weighing server).outcome with
  | error halt => exact .inl ((of_weighing_error ended).2 ▸ weighing)
  | ok weighed =>
    obtain ⟨ticket, resolution⟩ := weighed
    obtain ⟨answered, left⟩ := of_weighing_ok ended
    cases resolution with
    | failure missing =>
      refine .inl ?_
      rw [left]
      exact preserves.suspend ticket missing _ weighing
    | success granted =>
      rcases server.award_contracts turn.now ticket granted (turn.weighing server).realm with
        same | ⟨contracting, contract, contracted, missing, drafted, stored, issuing⟩
      · exact .inl (left ▸ same.trans weighing)
      · rw [weighing] at missing stored
        exact .inr ⟨ticket, granted, contract, ended, missing, ⟨contracting, contracted, drafted⟩,
          left ▸ stored, answered ▸ issuing⟩

/-- What a turn forfeits that breaks down on a ticket. -/
structure Forfeits (server : Server) (turn : Turn) (id : String) : Prop where
  /-- The ticket was there and still good. -/
  taken : turn.takes id = true
  /-- It is gone, and it alone. -/
  tickets : (turn.left server).tickets = (turn.realm.tickets.take turn.now id).2
  /-- Nobody can go on with it. -/
  spent : ∀ later : Turn, later.realm.tickets.Within (turn.left server).tickets →
    later.request.named? = some id → later.answer server = .error (.refused Server.invalidTicket)
  contracts : (turn.left server).contracts = turn.realm.contracts ∨
    ∃ ticket granted contract, turn.DrawsUp server ticket granted contract

/-- A request with a ticket that passes its check names that ticket. -/
private theorem named?_of_ticket {request : TokenRequest} {checked : TokenRequest.Checked}
    (naming : request.ticket = some id) (checks : request.check = .ok checked) :
    request.named? = some id := by
  obtain ⟨aim, aimed, rest⟩ := except_bind_eq_ok_iff.mp checks
  obtain ⟨tokens, _, same⟩ := except_bind_eq_ok_iff.mp rest
  cases same
  rw [TokenRequest.aim, naming] at aimed
  cases asked : request.permissions with
  | some permissions =>
    rw [asked] at aimed
    cases aimed
  | none =>
    rw [asked] at aimed
    cases aimed
    exact TokenRequest.named?_eq_some_iff.mpr ⟨tokens, checks⟩

private theorem left_of_takeOutage {error : GrantError} (broken : server.takeOutage = some error)
    (named : turn.request.named? = some id) : turn.left server = turn.realm := by
  obtain ⟨tokens, checks⟩ := TokenRequest.named?_eq_some_iff.mp named
  have ended : turn.weighing server = ⟨.error (.refused error), turn.realm, []⟩ := by
    rw [weighing, Server.run_weigh checks, Server.obtainTicket, Server.takeTicket, broken]
    rfl
  rw [(of_weighing_error (congrArg Passage.outcome ended)).2, ended]

/-- A turn that breaks down on a ticket has changed nothing, because its request does not pass the
check or the store is out of order, or it has used the ticket up. -/
theorem breakdown_forfeits {halt : Halt} (naming : turn.request.ticket = some id)
    (ended : turn.answer server = .error halt) (broken : halt.isBreakdown = true) :
    (turn.left server = turn.realm ∧
        (turn.request.named? = none ∨ server.takeOutage.isSome = true)) ∨
      (server.takeOutage = none ∧ turn.Forfeits server id) := by
  cases checks : turn.request.check with
  | error error =>
    exact .inl ⟨(of_check_error checks).2, .inl (by rw [TokenRequest.named?, checks])⟩
  | ok checked =>
    have named := named?_of_ticket naming checks
    cases working : server.takeOutage with
    | some error => exact .inl ⟨left_of_takeOutage working named, .inr rfl⟩
    | none =>
      have taken : turn.takes id = true := by
        rw [← Bool.not_eq_false]
        intro missed
        rw [answer_of_not_takes working named missed] at ended
        cases ended
        cases broken
      -- Only an answer that more claims are needed hands a ticket out.
      have kept : turn.handedOut? server = none := by
        refine Option.eq_none_iff_forall_ne_some.mpr fun other handed => ?_
        obtain ⟨_, _, required, told⟩ := handedOut?_eq_some_iff.mp handed
        rw [told] at ended
        cases ended
        cases broken
      have tickets : (turn.left server).tickets = (turn.realm.tickets.take turn.now id).2 := by
        rcases turn.store_cases server with ⟨_, left⟩ | ⟨_, _, putsBack⟩
        · rw [left, Server.storeWithout, working, named]
        · rw [putsBack.handedOut] at kept
          cases kept
      refine .inr ⟨rfl, taken, tickets, fun later within again => ?_, turn.contracts_cases server⟩
      refine answer_of_not_takes working again (Bool.not_eq_true _ ▸ fun takesAgain => ?_)
      obtain ⟨_, stored, found, _⟩ := takes_iff.mp takesAgain
      have still := within.entries id stored found
      rw [tickets] at still
      exact (Dict.get?_erase_eq_some_iff.mp still).1 rfl

end Turn

/-! ## A forged grant

The second turn shows a token that nobody knows. -/

namespace Report

def forging : Turn :=
  ⟨⟨0⟩, (TokenRequest.forTicket (Fresh.identifier 0)).push ⟨"forged grant", ClaimFormat.accessToken⟩,
    opening.left server⟩

/-- The right grant, once the ticket is gone. -/
def retrying : Turn := { proving with realm := forging.left server }

end Report

namespace Turn

theorem breakdown_forfeits_report :
    Report.forging.answer Report.server = .error (.refused (.verification "Unknown token")) ∧
      Report.forging.Forfeits Report.server (Fresh.identifier 0) := by
  have answered : Report.forging.answer Report.server =
      .error (.refused (.verification "Unknown token")) := rfl
  rcases breakdown_forfeits rfl answered rfl with ⟨_, named | outage⟩ | ⟨_, forfeits⟩
  · cases named
  · cases outage
  · exact ⟨answered, forfeits⟩

/-- A token that is not accepted costs the ticket. -/
theorem breakdown_costs_ticket :
    Report.forging.takes (Fresh.identifier 0) = true ∧
      Report.forging.answer Report.server = .error (.refused (.verification "Unknown token")) ∧
      (Report.forging.left Report.server).tickets.entries.contains (Fresh.identifier 0) = false ∧
      Report.retrying.answer Report.server = .error (.refused Server.invalidTicket) :=
  ⟨rfl, rfl, rfl, rfl⟩

end Turn

end UmaGrant
