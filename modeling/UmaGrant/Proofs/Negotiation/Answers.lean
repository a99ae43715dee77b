import UmaGrant.Proofs.Negotiation.Turn
import UmaGrant.Proofs.Recourse
/-! # Answers with recourse

A client is told under which identifier the negotiation goes on if and only if its ticket has been
stored under it. All other errors are without recourse, provided that the parts of the server leave
that to the negotiation.
-/

namespace UmaGrant

namespace Round

variable {α β : Type}

/-- Whether all errors that a round reports are without recourse, if the descriptions are in order. -/
def IsConclusive (round : Round α) : Prop :=
  ∀ realm : Realm, realm.descriptions.IsConclusive → ∀ error,
    (round.run realm).outcome = .error (.refused error) → error.hasRecourse = false

theorem IsConclusive.bind {first : Round α} {next : α → Round β} (conclusive : first.IsConclusive)
    (same : ∀ realm : Realm, (first.run realm).realm.descriptions = realm.descriptions)
    (conclusiveNext : ∀ value, (next value).IsConclusive) : (first >>= next).IsConclusive := by
  intro realm describing error ended
  rw [run_bind] at ended
  cases outcome : (first.run realm).outcome with
  | error halt =>
    rw [outcome] at ended
    cases ended
    exact conclusive realm describing error outcome
  | ok value =>
    rw [outcome] at ended
    refine conclusiveNext value (first.run realm).realm ?_ error ended
    rw [same realm]
    exact describing

theorem IsConclusive.bind_steady {first : Round α} {next : α → Round β}
    (conclusive : first.IsConclusive) (steady : first.IsSteady)
    (conclusiveNext : ∀ value, (next value).IsConclusive) : (first >>= next).IsConclusive :=
  conclusive.bind (fun realm => (steady realm).descriptions) conclusiveNext

theorem isConclusive_pure (value : α) : (pure value : Round α).IsConclusive :=
  fun _ _ _ ended => nomatch ended

theorem isConclusive_refuse {error : GrantError} (final : error.hasRecourse = false) :
    (refuse error : Round α).IsConclusive := by
  intro realm _ other ended
  cases ended
  exact final

theorem isConclusive_consult {computation : Consult α} (conclusive : Conclusive computation.outcome) :
    (consult computation).IsConclusive := by
  intro realm _ error ended
  refine conclusive error ?_
  unfold consult run at ended
  cases outcome : computation.outcome with
  | ok value => simp [outcome] at ended
  | error other => simpa [outcome] using ended

theorem isConclusive_ofExcept {outcome : Except Halt α}
    (conclusive : ∀ error, outcome = .error (.refused error) → error.hasRecourse = false) :
    (ofExcept outcome).IsConclusive := by
  intro realm _ error ended
  refine conclusive error ?_
  cases outcome with
  | ok value => cases ended
  | error halt => exact ended

/-- What a round asks others may depend on the realm. -/
theorem isConclusive_realm_consult {computation : Realm → Consult α} {next : Realm → α → Round β}
    (conclusive : ∀ realm : Realm, realm.descriptions.IsConclusive →
      Conclusive (computation realm).outcome)
    (conclusiveNext : ∀ realm value, (next realm value).IsConclusive) :
    (Round.realm >>= fun realm => consult (computation realm) >>= next realm).IsConclusive := by
  intro realm describing
  have asked := isConclusive_consult (conclusive realm describing)
  exact asked.bind_steady (isSteady_consult _) (conclusiveNext realm) realm describing

end Round

/-- Whether the parts of a server leave it to the negotiation to tell clients of tickets. -/
structure Server.IsConclusive (server : Server) : Prop where
  authorizer : server.strategy.settlement.authorizer.IsConclusive
  verifier : server.verifier.IsConclusive
  putOutage : ∀ error, server.putOutage = some error → error.hasRecourse = false
  takeOutage : ∀ error, server.takeOutage = some error → error.hasRecourse = false

namespace Contracting

variable {contracting : Contracting} {claims : Claims} {now : Instant} {error : GrantError}

private theorem constraintsFor_conclusive
    (failed : contracting.constraintsFor claims now = .error (.refused error)) :
    error.hasRecourse = false := by
  unfold constraintsFor Constraint.expiresAt at failed
  cases ending : now.after? contracting.lifetime with
  | none =>
    rw [ending] at failed
    cases failed
  | some expiry =>
    rw [ending] at failed
    dsimp only at failed
    cases formatted : Rfc3339.format (.utc expiry) with
    | ok text =>
      rw [formatted] at failed
      cases failed
    | error fault =>
      rw [formatted] at failed
      cases failed
      rfl

theorem contractFor_conclusive {contracts : Contracts} {granted : List Permission} {number : Nat}
    (failed : contracting.contractFor contracts claims granted now number = .error (.refused error)) :
    error.hasRecourse = false := by
  unfold contractFor draft at failed
  cases found : reusable? contracts claims granted now with
  | some contract =>
    rw [found] at failed
    cases failed
  | none =>
    rw [found] at failed
    cases constrained : contracting.constraintsFor claims now with
    | ok constraints =>
      rw [constrained] at failed
      cases failed
    | error halt =>
      rw [constrained] at failed
      cases failed
      exact constraintsFor_conclusive constrained

end Contracting

theorem TokenFactories.issue_conclusive {factories : TokenFactories} {name : String} {now : Instant}
    {supply : Supply} {payload : AccessToken} {error : GrantError}
    (failed : (factories.issue name now supply payload).1 = .error (.refused error)) :
    error.hasRecourse = false := by
  unfold issue at failed
  cases known : factories.get? name with
  | none =>
    rw [known] at failed
    cases failed
    rfl
  | some factory =>
    rw [known] at failed
    dsimp only at failed
    cases made : (factory.issue now supply payload).1 <;> rw [made] at failed <;> cases failed

namespace Server

variable {server : Server} {now : Instant} {request : TokenRequest}

/-! ## Parts of a round -/

private theorem takeTicket_conclusive (conclusive : server.IsConclusive) (id : String) :
    (server.takeTicket now id).IsConclusive := by
  intro realm describing error ended
  cases working : server.takeOutage with
  | some outage =>
    rw [takeTicket, working] at ended
    have refusing := conclusive.takeOutage outage working
    exact Round.isConclusive_refuse refusing realm describing error ended
  | none =>
    rw [run_takeTicket working] at ended
    cases taken : (realm.tickets.take now id).1 with
    | some ticket => simp [taken] at ended
    | none =>
      rw [taken] at ended
      cases ended
      rfl

private theorem descriptions_takeTicket (id : String) (realm : Realm) :
    ((server.takeTicket now id).run realm).realm.descriptions = realm.descriptions := by
  cases working : server.takeOutage with
  | some outage =>
    rw [takeTicket, working]
    rfl
  | none => rw [run_takeTicket working]

private theorem openTicket_conclusive (conclusive : server.IsConclusive)
    (permissions : List Permission) : (server.openTicket permissions).IsConclusive :=
  Round.isConclusive_realm_consult
    (fun realm describing =>
      Strategy.openTicket_conclusive conclusive.authorizer describing realm.issuers permissions)
    fun _ _ => fun _ _ _ ended => nomatch ended

private theorem verifyToken_conclusive (conclusive : server.IsConclusive) (token : ClaimToken) :
    (server.verifyToken now token).IsConclusive := by
  intro realm describing error ended
  have verified := server.verifier.verify_conclusive now token realm.factories conclusive.verifier
  rw [verifyToken, Round.run_realm_bind] at ended
  dsimp only at ended
  rw [Round.run_change_bind] at ended
  cases proven : (server.verifier.verify now token realm.factories).1 with
  | ok claims =>
    rw [proven] at ended
    cases ended
  | error other =>
    rw [proven] at ended
    cases ended
    exact verified error proven

private theorem addTokens_conclusive (conclusive : server.IsConclusive) (ticket : Ticket)
    (tokens : List ClaimToken) : (server.addTokens now ticket tokens).IsConclusive := by
  induction tokens generalizing ticket with
  | nil => exact Round.isConclusive_pure ticket
  | cons token rest ih =>
    refine (verifyToken_conclusive conclusive token).bind_steady (isSteady_verifyToken token) ?_
    exact fun claims => Round.IsConclusive.bind_steady (fun _ _ _ ended => nomatch ended)
      (Round.isSteady_ofLogged _) fun grown => ih grown

private theorem resolveTicket_conclusive (conclusive : server.IsConclusive) (ticket : Ticket) :
    (server.resolveTicket ticket).IsConclusive :=
  Round.isConclusive_realm_consult
    (fun realm describing => Strategy.resolve_conclusive conclusive.authorizer describing
      realm.issuers realm.supply ticket)
    fun _ _ => fun _ _ _ ended => nomatch ended

private theorem pursue_conclusive (conclusive : server.IsConclusive) (ticket : Ticket)
    (tokens : List ClaimToken) : (server.pursue now ticket tokens).IsConclusive := by
  refine (addTokens_conclusive conclusive ticket tokens).bind_steady
    (isSteady_addTokens ticket tokens) fun grown => ?_
  refine (resolveTicket_conclusive conclusive grown).bind_steady
    (isSteady_resolveTicket grown) fun resolution => ?_
  exact Round.isConclusive_pure _

private theorem check_conclusive (request : TokenRequest) : Conclusive request.check := by
  have aiming : Conclusive request.aim := by
    unfold TokenRequest.aim
    split <;> first | exact .ok _ | exact .error rfl
  have pushing : Conclusive request.claimTokens := by
    unfold TokenRequest.claimTokens
    split
    · exact .ok _
    · exact .ok _
    · split
      · exact .ok _
      · exact .error rfl
  exact aiming.bind fun _ => pushing.bind fun _ => .ok _

theorem weigh_conclusive (conclusive : server.IsConclusive) (now : Instant)
    (request : TokenRequest) : (server.weigh now request).IsConclusive := by
  refine Round.IsConclusive.bind_steady (Round.isConclusive_consult (check_conclusive request))
    (Round.isSteady_consult _) fun checked => ?_
  obtain ⟨aim, tokens⟩ := checked
  cases aim with
  | begin asked =>
    exact (openTicket_conclusive conclusive asked).bind_steady (isSteady_openTicket asked)
      fun ticket => pursue_conclusive conclusive ticket tokens
  | resume id =>
    exact (takeTicket_conclusive conclusive id).bind (descriptions_takeTicket id)
      fun ticket => pursue_conclusive conclusive ticket tokens

private theorem contractFor_conclusive (contracting : Contracting) (resolved : Resolved) :
    (contractFor contracting now resolved).IsConclusive := by
  refine Round.IsConclusive.bind_steady (fun _ _ _ ended => nomatch ended) Round.isSteady_draw
    fun number => ?_
  intro realm describing
  have found : (Round.ofExcept (contracting.contractFor realm.contracts resolved.ticket.provided
      resolved.granted now number)).IsConclusive :=
    Round.isConclusive_ofExcept fun _ failed => Contracting.contractFor_conclusive failed
  refine found.bind_steady (Round.isSteady_ofExcept _) (fun drawnUp => ?_) realm describing
  intro _ _ _ ended
  cases ended

theorem award_conclusive (ticket : Ticket) (granted : List Permission) :
    (server.conclude now (ticket, .success granted)).IsConclusive := by
  have drafting : (server.draft now ⟨ticket, granted⟩).IsConclusive := by
    unfold draft
    cases server.contracting with
    | none => exact Round.isConclusive_pure _
    | some contracting =>
      exact (contractFor_conclusive contracting _).bind_steady (isSteady_contractFor contracting _)
        fun uid => Round.isConclusive_pure _
  refine drafting.bind_steady (isSteady_draft _) fun payload => ?_
  intro realm describing error ended
  rw [issue, Round.run_realm_bind] at ended
  dsimp only at ended
  rw [Round.run_change_bind] at ended
  have issued : (Round.ofExcept (realm.factories.issue server.factory now realm.supply payload).1
      ).IsConclusive := Round.isConclusive_ofExcept fun _ failed =>
    TokenFactories.issue_conclusive failed
  refine issued.bind_steady (Round.isSteady_ofExcept _) (fun _ => Round.isConclusive_pure _) _ ?_
    error ended
  exact describing

end Server

namespace Turn

variable {server : Server} {turn : Turn}

/-- The answer is that more claims are needed if and only if the ticket has been handed out under the
identifier in the answer. -/
theorem handedOut?_eq_some_iff_answer (conclusive : server.IsConclusive)
    (describing : turn.realm.descriptions.IsConclusive) {id : String} :
    turn.handedOut? server = some id ↔
      ∃ required, turn.answer server = .error (.refused (.needInfo id required)) := by
  refine ⟨fun handed => (handedOut?_eq_some_iff.mp handed).2.2, ?_⟩
  rintro ⟨required, answered⟩
  -- Whatever else may end a turn is without recourse, so this answer comes from suspending a ticket.
  have telling : (GrantError.needInfo id required).hasRecourse = true := rfl
  cases ended : (turn.weighing server).outcome with
  | error halt =>
    obtain ⟨told, _⟩ := of_weighing_error ended
    rw [told] at answered
    cases answered
    have weighs := server.weigh_conclusive conclusive turn.now turn.request
    have final := weighs turn.realm describing _ ended
    exact absurd telling (by simp [final])
  | ok weighed =>
    obtain ⟨ticket, resolution⟩ := weighed
    obtain ⟨told, _⟩ := of_weighing_ok ended
    rw [told] at answered
    have known : (turn.weighing server).realm.descriptions = turn.realm.descriptions :=
      (turn.weighing_continues server).descriptions
    cases resolution with
    | success granted =>
      have final := Server.award_conclusive ticket granted (turn.weighing server).realm
        (known ▸ describing) _ answered
      exact absurd telling (by simp [final])
    | failure missing =>
      cases working : server.putOutage with
      | none =>
        exact handedOut?_eq_some_iff.mpr
          ⟨working, ⟨ticket, missing, ended⟩, required, told ▸ answered⟩
      | some outage =>
        have final := conclusive.putOutage outage working
        change ((server.suspend turn.now ticket missing).run _).outcome = _ at answered
        rw [Server.run_suspend, working] at answered
        dsimp only at answered
        split at answered
        · cases answered
        · cases answered
          exact absurd telling (by simp [final])

end Turn

end UmaGrant
