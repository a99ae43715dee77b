import UmaGrant.Proofs.Negotiation.Weighing
import UmaGrant.Proofs.Token.Standing
/-! # How a ticket is pursued

All tokens of a request are verified one after the other, and the first one that proves nothing ends
the round. Else the ticket is shown what they prove and is resolved, all of it together.
-/

namespace UmaGrant

/-- Whether a factory issues tokens at an instant. -/
def TokenFactories.Mints (factories : TokenFactories) (name : String) (now : Instant) : Prop :=
  ∃ supply payload token, (factories.issue name now supply payload).1 = .ok token

/-- What a token says does not matter to that, nor do the numbers from which it is made. -/
theorem TokenFactories.Agree.mints {concerns : String → Prop} {first second : TokenFactories}
    (agree : first.Agree concerns second) {name : String} {now : Instant}
    (mints : first.Mints name now) (supply : Supply) (payload : AccessToken) :
    ∃ token, (second.issue name now supply payload).1 = .ok token := by
  obtain ⟨other, another, issued, made⟩ := mints
  have same : (second.issue name now supply payload).1.map (·.type) =
      (first.issue name now other another).1.map (·.type) := agree.issues supply other payload another
  rw [made] at same
  cases minted : (second.issue name now supply payload).1 with
  | ok token => exact ⟨token, rfl⟩
  | error halt =>
    rw [minted] at same
    cases same

namespace Verifier

variable {verifier : Verifier} {now : Instant} {concerns : String → Prop}
  {first second : TokenFactories}

/-- What tokens prove, one after the other, and the factories afterwards. -/
def verifyAll (verifier : Verifier) (now : Instant) :
    List ClaimToken → TokenFactories → Except GrantError (List Claims) × TokenFactories
  | [], factories => (.ok [], factories)
  | token :: rest, factories =>
    match verifier.verify now token factories with
    | (.error error, factories) => (.error error, factories)
    | (.ok claims, factories) =>
      let (more, factories) := verifier.verifyAll now rest factories
      (more.map (claims :: ·), factories)

theorem verifyAll_error {token : ClaimToken} {rest : List ClaimToken} {factories : TokenFactories}
    {error : GrantError} (failed : (verifier.verify now token factories).1 = .error error) :
    verifier.verifyAll now (token :: rest) factories =
      (.error error, (verifier.verify now token factories).2) := by
  rw [verifyAll]
  generalize verifier.verify now token factories = verified at failed ⊢
  obtain ⟨proven, left⟩ := verified
  cases failed
  rfl

theorem verifyAll_ok {token : ClaimToken} {rest : List ClaimToken} {factories : TokenFactories}
    {claims : Claims} (proven : (verifier.verify now token factories).1 = .ok claims) :
    verifier.verifyAll now (token :: rest) factories =
      ((verifier.verifyAll now rest (verifier.verify now token factories).2).1.map (claims :: ·),
        (verifier.verifyAll now rest (verifier.verify now token factories).2).2) := by
  rw [verifyAll]
  generalize verifier.verify now token factories = verified at proven ⊢
  obtain ⟨found, left⟩ := verified
  cases proven
  rfl

theorem provenClaims_error {token : ClaimToken} {rest : List ClaimToken} {factories : TokenFactories}
    {error : GrantError} (failed : (verifier.verify now token factories).1 = .error error) :
    verifier.provenClaims now (token :: rest) factories = [] := by
  rw [provenClaims]
  generalize verifier.verify now token factories = verified at failed ⊢
  obtain ⟨proven, left⟩ := verified
  cases failed
  rfl

theorem provenClaims_ok {token : ClaimToken} {rest : List ClaimToken} {factories : TokenFactories}
    {claims : Claims} (proven : (verifier.verify now token factories).1 = .ok claims) :
    verifier.provenClaims now (token :: rest) factories =
      claims :: verifier.provenClaims now rest (verifier.verify now token factories).2 := by
  rw [provenClaims]
  generalize verifier.verify now token factories = verified at proven ⊢
  obtain ⟨found, left⟩ := verified
  cases proven
  rfl

/-- If not all tokens are in order, there is a first one that is not. -/
theorem exists_of_verifyAll_error {tokens : List ClaimToken} {factories : TokenFactories}
    {error : GrantError} (failed : (verifier.verifyAll now tokens factories).1 = .error error) :
    ∃ before failing after shown between, tokens = before ++ failing :: after ∧
      verifier.verifyAll now before factories = (.ok shown, between) ∧
      (verifier.verify now failing between).1 = .error error ∧
      (verifier.verifyAll now tokens factories).2 = (verifier.verify now failing between).2 ∧
      verifier.provenClaims now tokens factories = shown := by
  induction tokens generalizing factories with
  | nil => cases failed
  | cons token rest ih =>
    cases first : (verifier.verify now token factories).1 with
    | error other =>
      rw [verifyAll_error first] at failed
      cases failed
      exact ⟨[], token, rest, [], factories, rfl, rfl, first, by rw [verifyAll_error first],
        provenClaims_error first⟩
    | ok claims =>
      rw [verifyAll_ok first] at failed
      cases later : (verifier.verifyAll now rest (verifier.verify now token factories).2).1 with
      | ok more =>
        rw [later] at failed
        cases failed
      | error other =>
        rw [later] at failed
        cases failed
        obtain ⟨before, failing, after, shown, between, rfl, proven, fails, left, claimed⟩ := ih later
        refine ⟨token :: before, failing, after, claims :: shown, between, rfl, ?_, fails, ?_, ?_⟩
        · rw [verifyAll_ok first, proven]
          rfl
        · rw [verifyAll_ok first]
          exact left
        · rw [provenClaims_ok first, claimed]

/-- Whatever a verifier is asked, factories go on saying the same about other texts. -/
theorem verifyAll_agree (agree : first.Agree concerns second)
    (live : first.NoneExpired concerns now) (tokens : List ClaimToken) :
    first.Agree concerns (verifier.verifyAll now tokens second).2 := by
  induction tokens generalizing second with
  | nil => exact agree
  | cons token rest ih =>
    have after : first.Agree concerns (verifier.verify now token second).2 :=
      (verifier.verify_agrees agree).2 (.inl live)
    cases proven : (verifier.verify now token second).1 with
    | error error =>
      rw [verifyAll_error proven]
      exact after
    | ok claims =>
      rw [verifyAll_ok proven]
      exact ih after

end Verifier

namespace Server

variable {server : Server} {now : Instant} {realm : Realm} {ticket : Ticket}
  {tokens : List ClaimToken} {factories : TokenFactories} {shown : List Claims}

/-- A ticket is shown what tokens prove, one after the other, up to the first one that proves nothing. -/
theorem run_addTokens (server : Server) (now : Instant) (ticket : Ticket) (tokens : List ClaimToken)
    (realm : Realm) :
    (server.addTokens now ticket tokens).run realm =
      ⟨((server.verifier.verifyAll now tokens realm.factories).1.map
          (server.strategy.addAll ticket)).mapError .refused,
        { realm with factories := (server.verifier.verifyAll now tokens realm.factories).2 },
        (server.strategy.showAll ticket
          (server.verifier.provenClaims now tokens realm.factories)).log⟩ := by
  induction tokens generalizing realm ticket with
  | nil => rfl
  | cons token rest ih =>
    rw [addTokens, Round.run_bind, run_verifyToken]
    dsimp only
    cases first : (server.verifier.verify now token realm.factories).1 with
    | error error =>
      rw [Verifier.verifyAll_error first, Verifier.provenClaims_error first]
      rfl
    | ok claims =>
      rw [Verifier.verifyAll_ok first, Verifier.provenClaims_ok first]
      dsimp only
      rw [Round.run_ofLogged_bind, ih]
      cases (server.verifier.verifyAll now rest
        (server.verifier.verify now token realm.factories).2).1 <;> rfl

/-- A ticket is shown what all tokens prove, unless one of them proves nothing. -/
private theorem addTokens_ends_verified (server : Server) (now : Instant) (ticket : Ticket)
    (tokens : List ClaimToken) (realm : Realm) :
    (server.addTokens now ticket tokens).Ends realm
      (((server.verifier.verifyAll now tokens realm.factories).1.map
        (server.strategy.addAll ticket)).mapError .refused)
      { realm with factories := (server.verifier.verifyAll now tokens realm.factories).2 } := by
  rw [Round.Ends, run_addTokens]
  exact ⟨rfl, rfl⟩

/-- A ticket is resolved once it has been shown what all tokens prove. -/
theorem pursue_ok {resolution : Resolution} {supply : Supply}
    (proven : server.verifier.verifyAll now tokens realm.factories = (.ok shown, factories))
    (resolved : (server.strategy.resolve realm.descriptions realm.issuers realm.supply
      (server.strategy.addAll ticket shown)).outcome = .ok (resolution, supply)) :
    (server.pursue now ticket tokens).Ends realm
      (.ok (server.strategy.addAll ticket shown, resolution)) { realm with factories, supply } := by
  have added := server.addTokens_ends_verified now ticket tokens realm
  rw [proven] at added
  have decided : (server.resolveTicket (server.strategy.addAll ticket shown)).Ends
      { realm with factories } (.ok resolution) { realm with factories, supply } := by
    rw [Round.Ends, resolveTicket, Round.run_realm_bind, Round.run_consult_bind]
    dsimp only
    rw [resolved]
    exact ⟨rfl, rfl⟩
  exact added.bind (decided.bind ⟨rfl, rfl⟩)

/-- A ticket that cannot be resolved ends the round. -/
theorem pursue_unresolved {error : GrantError}
    (proven : server.verifier.verifyAll now tokens realm.factories = (.ok shown, factories))
    (failed : (server.strategy.resolve realm.descriptions realm.issuers realm.supply
      (server.strategy.addAll ticket shown)).outcome = .error error) :
    (server.pursue now ticket tokens).Ends realm (.error (.refused error))
      { realm with factories } := by
  have added := server.addTokens_ends_verified now ticket tokens realm
  rw [proven] at added
  refine added.bind (Round.Ends.bind_error ?_ _)
  rw [Round.Ends, resolveTicket, Round.run_realm_bind, Round.run_consult_bind]
  dsimp only
  rw [failed]
  exact ⟨rfl, rfl⟩

/-- So does the first token that proves nothing. -/
theorem pursue_unproven {error : GrantError}
    (failed : server.verifier.verifyAll now tokens realm.factories = (.error error, factories)) :
    (server.pursue now ticket tokens).Ends realm (.error (.refused error))
      { realm with factories } := by
  have added := server.addTokens_ends_verified now ticket tokens realm
  rw [failed] at added
  exact added.bind_error _

/-! ## Getting to the ticket -/

/-- A ticket that is still good is taken out of the store. -/
theorem obtainTicket_resume (taking : server.takeOutage = none) {id : String} {stored : StoredTicket}
    (found : realm.tickets.entries.get? id = some stored)
    (live : Tickets.isLive now stored = true) :
    (server.obtainTicket now (.resume id)).Ends realm (.ok stored.ticket)
      { realm with tickets := (realm.tickets.take now id).2 } := by
  have taken : (realm.tickets.take now id).1 = some stored.ticket :=
    Tickets.take_eq_some_iff.mpr ⟨stored, found, live, rfl⟩
  rw [obtainTicket, Round.Ends, run_takeTicket taking, taken]
  exact ⟨rfl, rfl⟩

/-- Weighing gets the ticket and pursues it. -/
theorem weigh_of_obtained {request : TokenRequest} {aim : TokenRequest.Aim} {between left : Realm}
    {outcome : Except Halt (Ticket × Resolution)}
    (checks : request.check = .ok ⟨aim, tokens⟩)
    (obtained : (server.obtainTicket now aim).Ends realm (.ok ticket) between)
    (pursued : (server.pursue now ticket tokens).Ends between outcome left) :
    (server.weigh now request).Ends realm outcome left := by
  rw [Round.Ends, run_weigh checks]
  exact obtained.bind pursued

end Server

end UmaGrant
