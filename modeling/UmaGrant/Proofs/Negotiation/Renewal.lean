import UmaGrant.Proofs.Negotiation.Engagement
/-! # The same grant again

A contract that was drawn up once serves for the same grant again, until it expires. Using it again does
not prolong it: a contract expires a lifetime after it was drawn up, however late it is used.
-/

namespace UmaGrant

/-- Histories of a server whose turns alone store contracts, which were others at the start. The newest
turn comes first. -/
inductive ContractRun (server : Server) (start : Contracts) : List Turn → Prop
  | first {turn : Turn} (opens : turn.realm.contracts = start) (filed : start.Filed)
      (free : start.FreeFrom turn.realm.supply.next) : ContractRun server start [turn]
  | next {turn last : Turn} {earlier : List Turn} (run : ContractRun server start (last :: earlier))
      (same : turn.realm.contracts = (last.left server).contracts)
      (onward : (last.left server).supply.next ≤ turn.realm.supply.next) :
      ContractRun server start (turn :: last :: earlier)

namespace ContractRun

variable {server : Server} {start : Contracts} {turn later earlier : Turn} {between before : List Turn}
  {contracting : Contracting} {contract : Contract}

/-- In a run the contracts are filed, and the identifiers to come are free. -/
theorem filed (run : ContractRun server start (turn :: before)) :
    turn.realm.contracts.Filed ∧ turn.realm.contracts.FreeFrom turn.realm.supply.next := by
  generalize same : turn :: before = history at run
  induction run generalizing turn before with
  | first opens filed free =>
    cases same
    rw [opens]
    exact ⟨filed, free⟩
  | next run contracts onward ih =>
    cases same
    obtain ⟨filed, free⟩ := ih rfl
    obtain ⟨stillFiled, stillFree, -⟩ := Turn.contracts_step server _ filed free
    rw [contracts]
    exact ⟨stillFiled, stillFree.mono onward⟩

/-- A run was one before its last turn. -/
theorem past (run : ContractRun server start (later :: earlier :: before)) :
    ContractRun server start (earlier :: before) := by
  cases run with
  | next run => exact run

/-- A run was one up to each of its turns. -/
theorem upTo (between : List Turn) (run : ContractRun server start (between ++ earlier :: before)) :
    ContractRun server start (earlier :: before) := by
  induction between with
  | nil => exact run
  | cons turn rest ih =>
    cases rest with
    | nil => exact ih run.past
    | cons other rest => exact ih run.past

/-- The contracts that a turn of a run leaves are there for good. -/
theorem within (run : ContractRun server start (later :: between ++ earlier :: before)) :
    (earlier.left server).contracts.Within later.realm.contracts := by
  induction between generalizing later with
  | nil =>
    cases run with
    | next run same => exact same ▸ .refl _
  | cons turn rest ih =>
    cases run with
    | next run same =>
      obtain ⟨filed, free⟩ := run.filed
      rw [same]
      exact (ih run).trans (Turn.contracts_step server turn filed free).2.2

/-- A contract that a turn of a run leaves was there at the start, or it was drawn up by then. -/
theorem origin (run : ContractRun server start (turn :: before))
    {uid : String} (found : (turn.left server).contracts.get? uid = some contract) :
    start.get? uid = some contract ∨ ∃ drafter ∈ turn :: before, ∃ ticket granted,
      drafter.DrawsUp server ticket granted contract := by
  generalize same : turn :: before = history at run ⊢
  induction run generalizing turn before with
  | first opens =>
    cases same
    rcases Turn.contract_origin found with present | drawsUp
    · exact .inl (opens ▸ present)
    · exact .inr ⟨_, List.mem_cons_self, drawsUp⟩
  | next run contracts onward ih =>
    cases same
    rcases Turn.contract_origin found with present | drawsUp
    · rw [contracts] at present
      rcases ih present rfl with old | ⟨drafter, member, drawsUp⟩
      · exact .inl old
      · exact .inr ⟨drafter, List.mem_cons_of_mem _ member, drawsUp⟩
    · exact .inr ⟨_, List.mem_cons_self, drawsUp⟩

/-- Two turns of a run grant the same to the same assignee for the same purpose, and there is something
in what they grant. The contract of the first one is still there at the second. If it still covers the
grant then, the second one leaves the contracts as they are and is under one of them. It covers the grant
exactly until a lifetime after the turn that drew it up. That was the first of the two turns if it has
added a contract at all, or one before it, unless the contract was there at the start of the run. -/
theorem granted_again (contracted : server.contracting = some contracting)
    (positive : 0 < contracting.lifetime)
    (run : ContractRun server start (later :: between ++ earlier :: before)) {ticket again : Ticket}
    {payload other : AccessToken}
    (issued : earlier.Issues server payload) (reissued : later.Issues server other)
    (weighed : (earlier.weighing server).outcome = .ok (ticket, .success payload.permissions))
    (reweighed : (later.weighing server).outcome = .ok (again, .success other.permissions))
    (assignees : Contracting.assignee again.provided = Contracting.assignee ticket.provided)
    (purposes : ContractPermission.samePurpose (Contracting.purpose? ticket.provided)
      (Contracting.purpose? again.provided) = true)
    (alike : other.permissions = payload.permissions)
    (given : Permission.Scoped payload.permissions) :
    ∃ contract, payload.contract = some contract.uid ∧
      later.realm.contracts.get? contract.uid = some contract ∧
      (contract.covers (Contracting.assignee again.provided) (Contracting.purpose? again.provided)
          other.permissions later.now = true →
        (later.left server).contracts = later.realm.contracts ∧
          ∃ reused, other.contract = some reused.uid ∧
            later.realm.contracts.get? reused.uid = some reused ∧
            reused.covers (Contracting.assignee again.provided) (Contracting.purpose? again.provided)
              other.permissions later.now = true) ∧
      (∀ drafter ticket granted, Turn.DrawsUp server drafter ticket granted contract →
        ∀ instant : Instant,
          contract.covers (Contracting.assignee again.provided) (Contracting.purpose? again.provided)
              other.permissions instant = true ↔
            instant.nanos < drafter.now.nanos + contracting.lifetime) ∧
      (start.get? contract.uid = some contract ∨
        ∃ drafter ∈ earlier :: before, ∃ ticket granted,
          drafter.DrawsUp server ticket granted contract) ∧
      ((earlier.left server).contracts = earlier.realm.contracts ∨
        ∃ ticket granted, earlier.DrawsUp server ticket granted contract) := by
  have past : ContractRun server start (earlier :: before) := upTo (later :: between) run
  obtain ⟨own, contract, weighedOwn, named, stored, covers, ending⟩ :=
    issued.under_contract contracted positive past.filed.1
  cases weighed.symm.trans weighedOwn
  have present := run.within _ _ stored
  -- What the first turn found covered it for the assignee and the purpose of the second one as well.
  have covering := Contract.covers_of_samePurpose purposes covers
  rw [← assignees, ← alike] at covering
  rw [← alike] at given
  refine ⟨contract, named, present, fun still => ?_, fun drafter _ _ drawsUp instant => ?_,
    past.origin stored, ?_⟩
  · have concerns := (Contract.covers_scoped given still).1
    exact reissued.reuses contracted positive run.filed.1 reweighed ⟨_, contract, present, concerns, still⟩
  · exact drawsUp.covers_lasting contracted given covering
  · exact ending.imp (·.2) fun drawsUp => ⟨_, _, drawsUp⟩

end ContractRun

/-! ## The same letter again and again -/

namespace Archive

/-- A letter is asked for at the start. -/
def first : Turn := asking ⟨0⟩ realm

/-- The same after twenty minutes. -/
def second : Turn := asking ⟨Lifetime.minutes 20⟩ (first.left server)

/-- And once more after forty. -/
def third : Turn := asking ⟨Lifetime.minutes 40⟩ (second.left server)

theorem run : ContractRun server .empty [third, second, first] :=
  .next (.next (.first rfl Contracts.filed_empty (Contracts.freeFrom_empty _)) rfl (Nat.le_refl _)) rfl
    (Nat.le_refl _)

/-- An archive that asks for claims, though it needs none. -/
def desk : Server := { server with strategy := ⟨⟨.elimination, .everyone⟩, none⟩ }

/-- A letter is asked for, but nothing to do with it. -/
def glancing (realm : Realm) : Turn := ⟨⟨0⟩, .forPermissions [.of "letter" []], realm⟩

def glancingAgain : Turn := glancing ((glancing realm).left desk)

/-- A token that gives nothing, under a contract of a number. -/
def glance (number : Nat) : AccessToken :=
  ⟨[.of "letter" []], some (Contracting.contractId number)⟩

end Archive

namespace ContractRun

/-- The contract of the first letter serves for the second one. -/
theorem granted_again_letter :
    Archive.second.Issues Archive.server Archive.payload ∧
      (Archive.second.left Archive.server).contracts = Archive.second.realm.contracts := by
  have issues : Archive.second.Issues Archive.server Archive.payload := ⟨rfl, _, rfl⟩
  have lends : Permission.Scoped Archive.payload.permissions :=
    ⟨_, List.mem_singleton_self _, List.cons_ne_nil _ _⟩
  obtain ⟨contract, -, -, onward, lasts, origin, -⟩ :=
    @granted_again _ _ _ _ [] _ _ rfl (by decide) (upTo [Archive.third] Archive.run) _ _ _ _
      Archive.asking_issues issues rfl rfl rfl rfl rfl lends
  rcases origin with old | ⟨drafter, member, _, _, drawsUp⟩
  · cases old
  · obtain rfl := List.mem_singleton.mp member
    exact ⟨issues, (onward ((lasts _ _ _ drawsUp _).mpr (by decide))).1⟩

/-- The second letter does not prolong the contract, and so a third one is lent under another, twenty
minutes after the second. A contract that permits nothing is not found again even at once. -/
theorem contracts_drawn_again :
    (ContractRun Archive.server .empty [Archive.third, Archive.second, Archive.first] ∧
      Archive.second.Issues Archive.server Archive.payload ∧
      Archive.third.Issues Archive.server
        ⟨Archive.payload.permissions, some (Contracting.contractId 4)⟩ ∧
      (∃ ticket, (Archive.second.weighing Archive.server).outcome =
          .ok (ticket, .success Archive.payload.permissions) ∧
        (Archive.third.weighing Archive.server).outcome =
          .ok (ticket, .success Archive.payload.permissions)) ∧
      Archive.third.now.nanos < Archive.second.now.nanos + Archive.contracting.lifetime ∧
      Archive.third.realm.contracts.size = 1 ∧
      (Archive.third.left Archive.server).contracts.size = 2) ∧
    ContractRun Archive.desk .empty [Archive.glancingAgain, Archive.glancing Archive.realm] ∧
      (Archive.glancing Archive.realm).Issues Archive.desk (Archive.glance 0) ∧
      Archive.glancingAgain.Issues Archive.desk (Archive.glance 2) ∧
      Archive.glancingAgain.realm.contracts.size = 1 ∧
      (Archive.glancingAgain.left Archive.desk).contracts.size = 2 := by
  refine ⟨⟨Archive.run, ⟨rfl, _, rfl⟩, ⟨rfl, _, rfl⟩, ⟨_, rfl, rfl⟩, by decide, rfl, rfl⟩, ?_,
    ⟨rfl, _, rfl⟩, ⟨rfl, _, rfl⟩, rfl, rfl⟩
  exact .next (.first rfl Contracts.filed_empty (Contracts.freeFrom_empty _)) rfl (Nat.le_refl _)

end ContractRun

end UmaGrant
