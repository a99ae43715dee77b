import UmaGrant.Proofs.Negotiation.Run
/-! # What access tokens give

Every access token of a run is bounded by what was asked for when its ticket was opened, and by the
claims that were shown to the ticket since. It gives nothing that was not asked for, and it gives a
derived resource only after every source has been opened.
-/

namespace UmaGrant

namespace Strategy

variable {strategy : Strategy}

/-- Both invariants of the entries of a ticket. Sources matter only to a strategy with a codec. -/
def Bounds (strategy : Strategy) (opening : Descriptions) (asked : List Permission)
    (shown : List Claims) (ticket : Ticket) : Prop :=
  strategy.Traces asked ticket ∧
    (strategy.codec.isSome = true → strategy.Accounts opening asked shown ticket)

theorem keeps_bounds (strategy : Strategy) : strategy.Keeps strategy.Bounds where
  opened opening := by
    refine ⟨openTicket_traces opening, fun coded => ?_⟩
    obtain ⟨codec, coded⟩ := Option.isSome_iff_exists.mp coded
    exact openTicket_accounts coded opening
  shown := by
    rintro opening asked shown ticket ⟨traces, accounts⟩ claims
    refine ⟨traces.addClaims claims, fun coded => ?_⟩
    have accounted := accounts coded
    obtain ⟨codec, coded⟩ := Option.isSome_iff_exists.mp coded
    exact accounted.addClaims coded claims

end Strategy

namespace Turn

variable {server : Server} {turn : Turn} {earlier : List Turn}

theorem mem_of_mem_lineage {past : Turn} {named : Option String} {history : List Turn}
    (member : past ∈ lineage server named history) : past ∈ history := by
  induction history generalizing named with
  | nil => cases named <;> exact member
  | cons turn earlier ih =>
    cases named with
    | none => exact absurd member List.not_mem_nil
    | some id =>
      rw [lineage] at member
      split at member
      · rcases List.mem_cons.mp member with rfl | member
        · exact List.mem_cons_self
        · exact List.mem_cons_of_mem _ (ih member)
      · exact List.mem_cons_of_mem _ (ih member)

theorem mem_of_mem_thread {past : Turn} {history : List Turn}
    (member : past ∈ thread server history) : past ∈ history := by
  cases history with
  | nil => exact member
  | cons turn earlier =>
    rcases List.mem_cons.mp member with rfl | member
    · exact List.mem_cons_self
    · exact List.mem_cons_of_mem _ (mem_of_mem_lineage member)

end Turn

namespace Run

variable {server : Server} {turn : Turn} {earlier : List Turn} {payload : AccessToken}

/-- A token gives restrictions of what was asked for in the request that opened its ticket. If the
strategy demands sources, nothing is given under the identifier of one. -/
theorem issued_narrows (own : server.strategy.settlement.authorizer.isOwn = true)
    (run : Run server (turn :: earlier)) (issued : turn.Issues server payload) :
    ∃ first asked, (Turn.thread server (turn :: earlier)).getLast? = some first ∧
      first.asked? = some asked ∧ ∀ permission ∈ payload.permissions,
        (∃ wanted ∈ asked, server.strategy.Narrows permission wanted) ∧
        (server.strategy.codec.isSome = true → ∀ id,
          server.strategy.Demands first.realm.descriptions asked id →
          server.strategy.realId permission.resourceId ≠ id) := by
  obtain ⟨ticket, weighed⟩ := issued.weighing
  obtain ⟨first, asked, last, asking, traces, accounts⟩ :=
    run.weighing_tells server.strategy.keeps_bounds weighed
  obtain ⟨_, _, _, _, _, supply, resolved⟩ := Server.weigh_ends ⟨weighed, rfl⟩
  refine ⟨first, asked, last, asking, fun permission member => ⟨?_, fun coded id demanded => ?_⟩⟩
  · exact traces.resolve own resolved permission member
  · have accounted := accounts coded
    obtain ⟨codec, coded⟩ := Option.isSome_iff_exists.mp coded
    exact (accounted.resolve coded traces own resolved demanded).2 permission member

theorem issued_narrows_report :
    ∃ first asked, (Turn.thread Report.server [Report.proving, Report.opening]).getLast? = some first ∧
      first.asked? = some asked ∧ ∀ permission ∈ Report.payload.permissions,
        (∃ wanted ∈ asked, Report.server.strategy.Narrows permission wanted) ∧
        (Report.server.strategy.codec.isSome = true → ∀ id,
          Report.server.strategy.Demands first.realm.descriptions asked id →
          Report.server.strategy.realId permission.resourceId ≠ id) :=
  issued_narrows rfl Report.run Report.issues

/-- A token gives a derived resource only if each of its sources has been opened: a claim set shown in
this turn or in an earlier one on the same ticket proves a grant on that very source. -/
theorem issued_opens {codec : IdCodec} (coded : server.strategy.codec = some codec)
    (own : server.strategy.settlement.authorizer.isOwn = true)
    (run : Run server (turn :: earlier)) {descriptions : Descriptions}
    (fixed : ∀ past ∈ turn :: earlier, past.realm.descriptions = descriptions)
    (issued : turn.Issues server payload) {permission : Permission}
    (member : permission ∈ payload.permissions) {description : Description}
    (described : descriptions.lookup (codec.realId permission.resourceId) = .ok (some description))
    {source : Source} (listed : source ∈ description.derivedFrom) :
    ∃ past ∈ Turn.thread server (turn :: earlier), ∃ claims ∈ past.shown server,
      Derivation.Opens claims source.derivationResourceId := by
  obtain ⟨ticket, weighed⟩ := issued.weighing
  obtain ⟨first, asked, last, asking, traces, accounts⟩ :=
    run.weighing_tells server.strategy.keeps_bounds weighed
  obtain ⟨_, _, _, _, _, supply, resolved⟩ := Server.weigh_ends ⟨weighed, rfl⟩
  obtain ⟨wanted, present, same, _⟩ := traces.resolve own resolved permission member
  have fixedFirst : first.realm.descriptions = descriptions :=
    fixed first (Turn.mem_of_mem_thread (List.mem_of_getLast? last))
  have demanded : server.strategy.Demands first.realm.descriptions asked
      source.derivationResourceId := by
    refine ⟨wanted, present, description, ?_, source, listed, rfl⟩
    rwa [fixedFirst, ← same, Strategy.realId_coded coded]
  have accounted := accounts (by rw [coded]; rfl)
  obtain ⟨claims, shown, opened⟩ := (accounted.resolve coded traces own resolved demanded).1
  obtain ⟨past, among, proven⟩ := Turn.mem_allShown.mp shown
  exact ⟨past, among, claims, proven, opened⟩

theorem issued_opens_report :
    ∃ past ∈ Turn.thread Report.server [Report.proving, Report.opening],
      ∃ claims ∈ past.shown Report.server, Derivation.Opens claims "upstream" :=
  issued_opens rfl rfl Report.run Report.descriptions_fixed Report.issues
    List.mem_cons_self rfl List.mem_cons_self

end Run

end UmaGrant
