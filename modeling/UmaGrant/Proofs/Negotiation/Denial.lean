import UmaGrant.Proofs.Negotiation.Run
import UmaGrant.Proofs.Strategy.Lacking
/-! # Who is denied

A ticket that goes by elimination is denied in the end if the authorizer has offered no alternative for
it. That is said as soon as no source is outstanding. A ticket that has no alternatives and still
demands sources is stored like any other, and the client is told of the sources, although no claims
could ever settle it.
-/

namespace UmaGrant

theorem Strategy.keeps_lacks {strategy : Strategy}
    (eliminating : strategy.settlement.method = .elimination) : strategy.Keeps strategy.Lacks where
  opened opened := openTicket_lacks eliminating opened
  shown lacks claims := lacks.addClaims eliminating claims

/-- What a ticket says about sources in a turn that has resolved it in vain. -/
theorem Strategy.Lacks.described {server : Server} {turn : Turn} {opening : Descriptions}
    {asked : List Permission} {shown : List Claims} {ticket : Ticket} {missing : List MissingClaims}
    (lacks : server.strategy.Lacks opening asked shown ticket)
    (weighed : (turn.weighing server).outcome = .ok (ticket, .failure missing)) :
    List.Forall₂ (Derivation.Describes (turn.weighing server).realm.issuers) ticket.derivedIds.keys
      (missing.filterMap MissingClaims.derivation?) := by
  obtain ⟨_, _, _, _, _, supply, resolved⟩ := Server.weigh_ends ⟨weighed, rfl⟩
  exact Strategy.outstanding_of_failure lacks.sourceless resolved

namespace Run

variable {server : Server} {turn : Turn} {earlier : List Turn} {ticket : Ticket}
  {missing : List MissingClaims}

/-- A ticket that could not be resolved is denied, and is gone, if and only if no alternatives were
offered for it and none of its sources is outstanding. Any other ticket is stored and the client is told
of it, also one without alternatives, although that can never be resolved. -/
theorem denied_iff (eliminating : server.strategy.settlement.method = .elimination)
    (working : server.putOutage = none) (run : Run server (turn :: earlier))
    (weighed : (turn.weighing server).outcome = .ok (ticket, .failure missing)) :
    ∃ first asked offered, (Turn.thread server (turn :: earlier)).getLast? = some first ∧
      first.asked? = some asked ∧
      server.strategy.offers first.realm.descriptions asked = .ok offered ∧
      (turn.answer server = .error (.refused .requestDenied) ↔
        offered = [] ∧ ∀ id, ¬ server.strategy.Outstanding first.realm.descriptions asked
          (Turn.allShown server (Turn.thread server (turn :: earlier))) id) ∧
      (turn.answer server = .error (.refused .requestDenied) →
        (turn.left server).tickets =
          server.storeWithout turn.now turn.request turn.realm.tickets) ∧
      (turn.answer server ≠ .error (.refused .requestDenied) →
        (∃ id required expiresAt, turn.answer server = .error (.refused (.needInfo id required)) ∧
          turn.PutsBack server ticket expiresAt) ∨
        turn.answer server = .error .beyondCalendar ∧
          turn.now.after? turn.realm.tickets.lifetime = none) ∧
      (offered = [] → ∀ more descriptions issuers supply granted after,
        (server.strategy.resolve descriptions issuers supply
          (server.strategy.addAll ticket more)).outcome ≠ .ok (.success granted, after)) := by
  obtain ⟨first, asked, last, asking, lacks⟩ :=
    run.weighing_tells (Strategy.keeps_lacks eliminating) weighed
  obtain ⟨offered, offers, required⟩ := lacks.alternatives
  have none : ticket.required = [] ↔ offered = [] := by rw [required, List.map_eq_nil_iff]
  have closed : missing.filterMap MissingClaims.derivation? = [] ↔
      ∀ id, ¬ server.strategy.Outstanding first.realm.descriptions asked
        (Turn.allShown server (Turn.thread server (turn :: earlier))) id := by
    have described := lacks.described weighed
    rw [← List.length_eq_zero_iff, ← described.length_eq, List.length_eq_zero_iff,
      List.eq_nil_iff_forall_not_mem]
    exact forall_congr' fun id => not_congr lacks.mem_keys
  refine ⟨first, asked, offered, last, asking, offers, ?_, fun denied => ?_, fun other => ?_,
    fun nothing more descriptions issuers supply granted after resolved => ?_⟩
  · rw [← none, ← closed]
    cases Turn.suspends_of_weighing weighed with
    | denied helpless answered _ => exact iff_of_true answered helpless
    | broken outage => cases working.symm.trans outage
    | undated _ helped _ answered _ => exact iff_of_false (by rw [answered]; exact nofun) helped
    | told _ helped _ _ answered _ => exact iff_of_false (by rw [answered]; exact nofun) helped
  · cases Turn.suspends_of_weighing weighed with
    | denied _ _ left => rw [left, Turn.tickets_weighing]
    | broken outage => cases working.symm.trans outage
    | undated _ _ _ answered _ => cases denied.symm.trans answered
    | told _ _ _ _ answered _ => cases denied.symm.trans answered
  · cases Turn.suspends_of_weighing weighed with
    | denied _ answered _ => exact absurd answered other
    | broken outage => cases working.symm.trans outage
    | undated _ _ expiry answered _ => exact .inr ⟨answered, expiry⟩
    | told _ _ expiresAt putsBack answered _ => exact .inl ⟨_, _, expiresAt, answered, putsBack⟩
  · have settled := Strategy.isSatisfied_of_success eliminating resolved
    rw [Strategy.isSatisfied_addAll eliminating, none.mpr nothing] at settled
    obtain ⟨alternative, member, _⟩ := settled
    exact List.not_mem_nil member

end Run

/-! ## A report that is closed to everyone -/

namespace Report

def closed : Server := { server with strategy := ⟨⟨.elimination, .nobody⟩, some codec⟩ }

/-- The grant on the source is shown to a server that has been asked for the report. -/
def provingTo (server : Server) : Turn := ⟨⟨0⟩, proving.request, opening.left server⟩

theorem run_provingTo (server : Server) : Run server [provingTo server, opening] :=
  .next (.first rfl) (.refl _)

theorem closed_weighs : ∃ ticket,
    ((provingTo closed).weighing closed).outcome = .ok (ticket, .failure []) := ⟨_, rfl⟩

/-- What the client is asked for: no claims, and a token for the source. -/
def upstream : RequiredClaims :=
  ⟨[], [⟨ClaimFormat.accessToken, "https://as.example", "upstream", [Scope.derivationRead]⟩]⟩

end Report

namespace Run

/-- Once the source is open, the report is denied and its ticket is gone. -/
theorem denied_iff_report :
    let turn := Report.provingTo Report.closed
    turn.answer Report.closed = .error (.refused .requestDenied) ∧
      (turn.left Report.closed).tickets =
        Report.closed.storeWithout turn.now turn.request turn.realm.tickets := by
  obtain ⟨ticket, weighed⟩ := Report.closed_weighs
  obtain ⟨_, _, _, _, _, _, _, gone, _⟩ :=
    denied_iff rfl rfl (Report.run_provingTo Report.closed) weighed
  exact ⟨rfl, gone rfl⟩

/-- Before that the client is sent for a token for the source, although no alternatives were offered. -/
theorem told_without_alternatives :
    Run Report.closed [Report.opening] ∧
      Report.closed.strategy.offers Report.descriptions [.of "report" [Scope.read]] = .ok [] ∧
      (∃ ticket missing, (Report.opening.weighing Report.closed).outcome =
        .ok (ticket, .failure missing)) ∧
      Report.opening.answer Report.closed =
        .error (.refused (.needInfo (Fresh.identifier 0) Report.upstream)) :=
  ⟨.first rfl, rfl, ⟨_, _, rfl⟩, rfl⟩

end Run

end UmaGrant
