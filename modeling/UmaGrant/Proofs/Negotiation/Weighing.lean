import UmaGrant.Proofs.Negotiation.Parts
import UmaGrant.Proofs.Store.Tickets
/-! # How a ticket is weighed

The ticket of a round comes from the store or from the strategy. It is shown what the tokens of the
request prove and is then resolved. However that ends, the store lacks the ticket that the request
names, and nothing else.
-/

namespace UmaGrant.Server

variable {server : Server} {now : Instant} {request : TokenRequest} {realm left : Realm}

/-! ## The ticket of a round -/

/-- Where the ticket of a round comes from: the store, or the strategy. -/
inductive Obtains (server : Server) (now : Instant) (realm : Realm) :
    TokenRequest.Aim → Ticket → Prop
  | taken {id : String} {stored : StoredTicket} (working : server.takeOutage = none)
      (found : realm.tickets.entries.get? id = some stored)
      (live : Tickets.isLive now stored = true) : Obtains server now realm (.resume id) stored.ticket
  | opened {asked : List Permission} {sourced : Sourced}
      (opening : (server.strategy.openTicket realm.descriptions realm.issuers asked).outcome =
        .ok sourced) : Obtains server now realm (.begin asked) sourced.ticket

theorem run_takeTicket (working : server.takeOutage = none) (id : String) :
    (server.takeTicket now id).run realm =
      ⟨match (realm.tickets.take now id).1 with
        | some ticket => .ok ticket
        | none => .error (.refused invalidTicket),
        { realm with tickets := (realm.tickets.take now id).2 }, []⟩ := by
  rw [takeTicket, working]
  change (match (realm.tickets.take now id).1 with | some ticket => pure ticket | none => _ :
    Round Ticket).run { realm with tickets := (realm.tickets.take now id).2 } = _
  cases (realm.tickets.take now id).1 <;> rfl

private theorem run_takeTicket_broken {error : GrantError} (broken : server.takeOutage = some error)
    (id : String) :
    (server.takeTicket now id).run realm = ⟨.error (.refused error), realm, []⟩ := by
  rw [takeTicket, broken]
  rfl

private theorem openTicket_ends {asked : List Permission} {ticket : Ticket}
    (ended : (server.openTicket asked).Ends realm (.ok ticket) left) :
    ∃ sourced, (server.strategy.openTicket realm.descriptions realm.issuers asked).outcome =
        .ok sourced ∧ ticket = sourced.ticket ∧ left.factories = realm.factories := by
  rw [openTicket] at ended
  obtain ⟨sourced, opening, same, rfl⟩ := Round.ends_realm_consult_ok.mp ended
  cases same
  exact ⟨sourced, opening, rfl, rfl⟩

/-- A round that gets its ticket has found it in the store or had it made. -/
theorem obtainTicket_ends {aim : TokenRequest.Aim} {ticket : Ticket}
    (ended : (server.obtainTicket now aim).Ends realm (.ok ticket) left) :
    server.Obtains now realm aim ticket ∧ left.descriptions = realm.descriptions ∧
      left.factories = realm.factories := by
  cases aim with
  | begin asked =>
    have steady := (isSteady_openTicket asked).ends ended
    obtain ⟨sourced, opening, rfl, factories⟩ := openTicket_ends ended
    exact ⟨.opened opening, steady.descriptions, factories⟩
  | resume id =>
    change (server.takeTicket now id).Ends realm (.ok ticket) left at ended
    cases working : server.takeOutage with
    | some error =>
      rw [Round.Ends, run_takeTicket_broken working] at ended
      cases ended.1
    | none =>
      rw [Round.Ends, run_takeTicket working] at ended
      obtain ⟨found, rfl⟩ := ended
      refine ⟨?_, rfl, rfl⟩
      cases taken : (realm.tickets.take now id).1 with
      | none =>
        rw [taken] at found
        cases found
      | some known =>
        rw [taken] at found
        cases found
        obtain ⟨stored, present, live, rfl⟩ := Tickets.take_eq_some_iff.mp taken
        exact .taken working present live

theorem verifyToken_ends {token : ClaimToken} {claims : Claims}
    (ended : (server.verifyToken now token).Ends realm (.ok claims) left) :
    server.verifier.verify now token realm.factories = (.ok claims, left.factories) := by
  rw [Round.Ends, run_verifyToken] at ended
  generalize server.verifier.verify now token realm.factories = answer at ended ⊢
  obtain ⟨proven, factories⟩ := answer
  cases proven with
  | error error => cases ended.1
  | ok found =>
    obtain ⟨same, rfl⟩ := ended
    cases same
    rfl

/-- When all tokens are in order, the ticket has been shown what they prove. -/
theorem addTokens_ends {ticket grown : Ticket} {tokens : List ClaimToken}
    (ended : (server.addTokens now ticket tokens).Ends realm (.ok grown) left) :
    grown = server.strategy.addAll ticket
      (server.verifier.provenClaims now tokens realm.factories) := by
  induction tokens generalizing ticket realm with
  | nil =>
    cases ended.1
    rfl
  | cons token rest ih =>
    rw [addTokens] at ended
    obtain ⟨claims, between, verified, ended⟩ := Round.ends_bind_ok.mp ended
    obtain ⟨middle, after, ⟨same, rfl⟩, ended⟩ := Round.ends_bind_ok.mp ended
    cases same
    rw [ih ended, Verifier.provenClaims, verifyToken_ends verified]
    rfl

theorem resolveTicket_ends {ticket : Ticket} {resolution : Resolution}
    (ended : (server.resolveTicket ticket).Ends realm (.ok resolution) left) :
    (server.strategy.resolve realm.descriptions realm.issuers realm.supply ticket).outcome =
        .ok (resolution, left.supply) ∧ left.issuers = realm.issuers := by
  rw [resolveTicket] at ended
  obtain ⟨⟨decided, supply⟩, resolved, same, rfl⟩ := Round.ends_realm_consult_ok.mp ended
  cases same
  exact ⟨resolved, rfl⟩

/-- A round that weighs its ticket has obtained one, has shown it what the tokens prove, and has
resolved what came of that. -/
theorem weigh_ends {ticket : Ticket} {resolution : Resolution}
    (ended : (server.weigh now request).Ends realm (.ok (ticket, resolution)) left) :
    ∃ checked start, request.check = .ok checked ∧ server.Obtains now realm checked.aim start ∧
      ticket = server.strategy.addAll start
        (server.verifier.provenClaims now checked.tokens realm.factories) ∧
      ∃ supply, (server.strategy.resolve realm.descriptions left.issuers supply ticket).outcome =
        .ok (resolution, left.supply) := by
  rw [weigh] at ended
  obtain ⟨checked, between, consulted, ended⟩ := Round.ends_bind_ok.mp ended
  obtain ⟨start, after, obtained, ended⟩ := Round.ends_bind_ok.mp ended
  rw [pursue] at ended
  obtain ⟨grown, later, added, ended⟩ := Round.ends_bind_ok.mp ended
  obtain ⟨decided, last, resolved, same, rfl⟩ := Round.ends_bind_ok.mp ended
  cases same
  obtain ⟨checks, rfl⟩ := Round.ends_consult_ok.mp consulted
  obtain ⟨source, descriptions, factories⟩ := obtainTicket_ends obtained
  refine ⟨checked, start, checks, source, by rw [addTokens_ends added, factories], later.supply, ?_⟩
  obtain ⟨resolves, issuers⟩ := resolveTicket_ends resolved
  change (server.strategy.resolve between.descriptions last.issuers later.supply _).outcome =
    .ok (resolution, last.supply)
  rw [issuers, ← descriptions, ← ((isSteady_addTokens start checked.tokens).ends added).descriptions]
  exact resolves

/-! ## The store of a server -/

/-- The store once a request has had its ticket taken out, if it names one. -/
def storeWithout (server : Server) (now : Instant) (request : TokenRequest) (tickets : Tickets) :
    Tickets :=
  match server.takeOutage, request.named? with
  | none, some id => (tickets.take now id).2
  | _, _ => tickets

theorem storeWithout_within (tickets : Tickets) :
    (server.storeWithout now request tickets).Within tickets := by
  unfold storeWithout
  split
  · exact tickets.take_within now _
  · exact .refl tickets

/-- Weighing takes out the ticket that is named and leaves the other tickets alone, however it
ends. -/
theorem weigh_continues (server : Server) (now : Instant) (request : TokenRequest) (realm : Realm) :
    ({ realm with tickets := server.storeWithout now request realm.tickets } : Realm).Continues
      ((server.weigh now request).run realm).realm := by
  rw [storeWithout, TokenRequest.named?]
  cases checks : request.check with
  | error error =>
    rw [run_weigh_error checks]
    cases server.takeOutage <;> exact .refl realm
  | ok checked =>
    obtain ⟨aim, tokens⟩ := checked
    rw [run_weigh checks]
    cases aim with
    | begin asked =>
      have steady : (server.openTicket asked >>= fun ticket =>
          server.pursue now ticket tokens).IsSteady :=
        (isSteady_openTicket asked).bind fun ticket => isSteady_pursue ticket tokens
      cases server.takeOutage <;> exact steady realm
    | resume id =>
      rw [obtainTicket, Round.run_bind]
      cases working : server.takeOutage with
      | some error =>
        rw [run_takeTicket_broken working]
        exact .refl realm
      | none =>
        rw [run_takeTicket working]
        cases (realm.tickets.take now id).1 with
        | none => exact .refl _
        | some ticket => exact isSteady_pursue ticket tokens _

end UmaGrant.Server
