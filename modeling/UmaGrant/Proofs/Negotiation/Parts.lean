import UmaGrant.Negotiation.Server
import UmaGrant.Proofs.Negotiation.Round
import UmaGrant.Proofs.Strategy.Provenance
/-! # The parts of a round

A round at the token endpoint first weighs a ticket: it takes or makes the ticket, adds the claims
that are pushed and resolves it. Then it concludes, with an access token or with the ticket back in
the store. Only taking a ticket and putting it back touch the store.
-/

namespace UmaGrant

/-- The ticket that a request names, if the request passes its check. -/
def TokenRequest.named? (request : TokenRequest) : Option String :=
  match request.check with
  | .ok ⟨.resume id, _⟩ => some id
  | _ => none

theorem TokenRequest.named?_eq_some_iff {request : TokenRequest} {id : String} :
    request.named? = some id ↔ ∃ tokens, request.check = .ok ⟨.resume id, tokens⟩ := by
  unfold named?
  cases checks : request.check with
  | error error => simp
  | ok checked =>
    obtain ⟨aim, tokens⟩ := checked
    cases aim <;> simp

/-- The claim sets that tokens prove one after the other, up to the first token that proves none. -/
def Verifier.provenClaims (verifier : Verifier) (now : Instant) :
    List ClaimToken → TokenFactories → List Claims
  | [], _ => []
  | token :: rest, factories =>
    match verifier.verify now token factories with
    | (.ok claims, factories) => claims :: verifier.provenClaims now rest factories
    | (.error _, _) => []

theorem TokenFactories.supply_issue {factories left : TokenFactories} {name : String} {now : Instant}
    {supply after : Supply} {payload : AccessToken} {issued : Except Halt IssuedToken}
    (issuing : factories.issue name now supply payload = (issued, left, after)) :
    supply.next ≤ after.next := by
  unfold issue at issuing
  cases known : factories.get? name with
  | none =>
    rw [known] at issuing
    cases issuing
    exact Nat.le_refl _
  | some factory =>
    have drawn : supply.next ≤ (factory.issue now supply payload).2.next := by
      cases factory with
      | reference table => exact Nat.le_succ _
      | signed tokens ring => exact Nat.le_add_right _ 2
    rw [known] at issuing
    dsimp only at issuing
    cases made : (factory.issue now supply payload).1 <;> rw [made] at issuing <;> cases issuing <;>
      exact drawn

namespace Server

variable {server : Server} {now : Instant} {request : TokenRequest} {realm left : Realm}

/-! ## Weighing and concluding -/

/-- A round on a ticket up to its resolution, whichever that is. -/
def pursue (server : Server) (now : Instant) (ticket : Ticket) (tokens : List ClaimToken) :
    Round (Ticket × Resolution) := do
  let ticket ← server.addTokens now ticket tokens
  let resolution ← server.resolveTicket ticket
  pure (ticket, resolution)

/-- A round up to the resolution of its ticket, whichever that is. -/
def weigh (server : Server) (now : Instant) (request : TokenRequest) :
    Round (Ticket × Resolution) := do
  let checked ← Round.consult (Consult.lift request.check)
  let ticket ← server.obtainTicket now checked.aim
  server.pursue now ticket checked.tokens

/-- What the access token for a resolved ticket says. -/
def draft (server : Server) (now : Instant) (resolved : Resolved) : Round AccessToken :=
  match server.contracting with
  | none => pure ⟨resolved.granted, none⟩
  | some contracting => do
    let uid ← contractFor contracting now resolved
    pure ⟨resolved.granted, some uid⟩

/-- The rest of a round, once its ticket has been resolved. -/
def conclude (server : Server) (now : Instant) : Ticket × Resolution → Round TokenResponse
  | (ticket, .success granted) => do
    let payload ← server.draft now ⟨ticket, granted⟩
    server.issue now payload
  | (ticket, .failure missing) => server.suspend now ticket missing

/-- A round up to what its access token says. -/
def grant (server : Server) (now : Instant) (request : TokenRequest) : Round AccessToken := do
  let resolved ← server.settle now request
  server.draft now resolved

/-- What is settled once a ticket has been resolved. -/
def settleWeighed (server : Server) (now : Instant) : Ticket × Resolution → Round Resolved
  | (ticket, .success granted) => pure ⟨ticket, granted⟩
  | (ticket, .failure missing) => server.suspend now ticket missing

theorem settle_eq :
    server.settle now request = server.weigh now request >>= server.settleWeighed now := by
  simp only [settle, weigh, pursue, bind_assoc, pure_bind]
  refine bind_congr fun checked => bind_congr fun start => bind_congr fun ticket => ?_
  refine bind_congr fun resolution => ?_
  cases resolution <;> rfl

/-- A round decides what its access token says, and then issues it. -/
theorem negotiate_eq_grant :
    server.negotiate now request = server.grant now request >>= server.issue now := by
  unfold negotiate grant draft
  cases server.contracting <;> simp only [bind_assoc, pure_bind]

/-- A suspended ticket ends the round, whatever else would have come. -/
private theorem suspend_bind {α β : Type} {ticket : Ticket} {missing : List MissingClaims}
    (next : α → Round β) :
    (server.suspend now ticket missing >>= next) = server.suspend now ticket missing := by
  unfold suspend
  by_cases denied : (ticket.required.isEmpty &&
      (missing.filterMap MissingClaims.derivation?).isEmpty) = true
  · simp only [denied, if_true]
    rfl
  · simp only [denied, Bool.false_eq_true, if_false, bind_assoc]
    rfl

/-- A round weighs its ticket and then concludes. -/
theorem negotiate_eq :
    server.negotiate now request = server.weigh now request >>= server.conclude now := by
  rw [negotiate_eq_grant, grant, settle_eq, bind_assoc, bind_assoc]
  congr 1
  funext weighed
  obtain ⟨ticket, resolution⟩ := weighed
  cases resolution with
  | success granted => simp only [conclude, settleWeighed, pure_bind]
  | failure missing => simp only [conclude, settleWeighed, suspend_bind]

/-- A request that does not pass its check is refused. -/
theorem run_weigh_error {error : GrantError} (refused : request.check = .error error) :
    (server.weigh now request).run realm = ⟨.error (.refused error), realm, []⟩ := by
  rw [weigh, Round.run_consult_bind, Consult.outcome_lift, refused]
  rfl

/-- Any other gets its ticket first. -/
theorem run_weigh {aim : TokenRequest.Aim} {tokens : List ClaimToken}
    (checks : request.check = .ok ⟨aim, tokens⟩) :
    (server.weigh now request).run realm =
      (server.obtainTicket now aim >>= fun ticket => server.pursue now ticket tokens).run realm := by
  rw [weigh, Round.run_consult_bind, Consult.outcome_lift, checks]
  rfl

/-! ## What a round leaves alone -/

/-- A token proves what the verifier says. -/
theorem run_verifyToken (token : ClaimToken) :
    (server.verifyToken now token).run realm =
      let verified := server.verifier.verify now token realm.factories
      ⟨match verified.1 with
        | .ok claims => .ok claims
        | .error error => .error (.refused error),
        { realm with factories := verified.2 }, []⟩ := by
  rw [verifyToken, Round.run_realm_bind]
  dsimp only
  rw [Round.run_change_bind]
  cases (server.verifier.verify now token realm.factories).1 <;> rfl

theorem isSteady_verifyToken (token : ClaimToken) : (server.verifyToken now token).IsSteady := by
  intro realm
  rw [run_verifyToken]
  exact ⟨rfl, rfl, Nat.le_refl _⟩

theorem isSteady_addTokens (ticket : Ticket) (tokens : List ClaimToken) :
    (server.addTokens now ticket tokens).IsSteady := by
  induction tokens generalizing ticket with
  | nil => exact Round.isSteady_pure ticket
  | cons token rest ih =>
    exact (isSteady_verifyToken token).bind fun claims =>
      (Round.isSteady_ofLogged _).bind fun grown => ih grown

theorem isSteady_openTicket (permissions : List Permission) :
    (server.openTicket permissions).IsSteady := by
  refine Round.isSteady_realm.bind fun realm => (Round.isSteady_consult _).bind fun sourced => ?_
  refine Round.IsSteady.bind (Round.isSteady_change fun _ => ?_) fun _ => Round.isSteady_pure _
  exact ⟨rfl, rfl, Nat.le_refl _⟩

theorem isSteady_resolveTicket (ticket : Ticket) : (server.resolveTicket ticket).IsSteady := by
  intro realm
  rw [resolveTicket, Round.run_realm_bind, Round.run_consult_bind]
  cases resolved : (server.strategy.resolve realm.descriptions realm.issuers realm.supply
      ticket).outcome with
  | error error => exact .refl realm
  | ok resolution => exact ⟨rfl, rfl, Strategy.supply_resolve resolved⟩

theorem isSteady_pursue (ticket : Ticket) (tokens : List ClaimToken) :
    (server.pursue now ticket tokens).IsSteady :=
  (isSteady_addTokens ticket tokens).bind fun grown =>
    (isSteady_resolveTicket grown).bind fun _ => Round.isSteady_pure _

theorem isSteady_contractFor (contracting : Contracting) (resolved : Resolved) :
    (contractFor contracting now resolved).IsSteady := by
  refine Round.isSteady_draw.bind fun number => Round.isSteady_realm.bind fun realm => ?_
  refine (Round.isSteady_ofExcept _).bind fun found => ?_
  obtain ⟨contract, contracts⟩ := found
  refine Round.IsSteady.bind (Round.isSteady_change fun _ => ?_) fun _ => Round.isSteady_pure _
  exact ⟨rfl, rfl, Nat.le_refl _⟩

theorem isSteady_draft (resolved : Resolved) : (server.draft now resolved).IsSteady := by
  unfold draft
  cases server.contracting with
  | none => exact Round.isSteady_pure _
  | some contracting =>
    exact (isSteady_contractFor contracting resolved).bind fun _ => Round.isSteady_pure _

/-- A contract is drawn up and stored only where none that is there will do. -/
theorem run_contractFor (contracting : Contracting) (resolved : Resolved) :
    (contractFor contracting now resolved).run realm =
      let drawn := { realm with supply := ⟨realm.supply.next + 1⟩ }
      match Contracting.reusable? realm.contracts resolved.ticket.provided resolved.granted now,
        contracting.draft resolved.ticket.provided resolved.granted now
          (Contracting.contractId realm.supply.next) with
      | some contract, _ => ⟨.ok contract.uid, drawn, []⟩
      | none, .error halt => ⟨.error halt, drawn, []⟩
      | none, .ok contract =>
        ⟨.ok contract.uid, { drawn with contracts := realm.contracts.put contract }, []⟩ := by
  rw [contractFor, Round.run_draw_bind, Round.run_realm_bind]
  unfold Contracting.contractFor
  dsimp only
  cases Contracting.reusable? realm.contracts resolved.ticket.provided resolved.granted now with
  | some contract => rfl
  | none =>
    cases contracting.draft resolved.ticket.provided resolved.granted now
      (Contracting.contractId realm.supply.next) <;> rfl

/-- What comes of a token factory is the answer, along with the source that the token opens. -/
theorem run_issue (payload : AccessToken) :
    (server.issue now payload).run realm =
      let issued := realm.factories.issue server.factory now realm.supply payload
      ⟨issued.1.map fun token => ⟨token.text, token.type, derivationId? payload.permissions⟩,
        { realm with factories := issued.2.1, supply := issued.2.2 }, []⟩ := by
  rw [issue, Round.run_realm_bind]
  dsimp only
  rw [Round.run_change_bind]
  cases (realm.factories.issue server.factory now realm.supply payload).1 <;> rfl

theorem isSteady_issue (payload : AccessToken) : (server.issue now payload).IsSteady := by
  intro realm
  rw [run_issue]
  exact ⟨rfl, rfl, TokenFactories.supply_issue rfl⟩

theorem isSteady_award (ticket : Ticket) (granted : List Permission) :
    (server.conclude now (ticket, .success granted)).IsSteady :=
  (isSteady_draft ⟨ticket, granted⟩).bind fun payload => isSteady_issue payload

end Server

end UmaGrant
