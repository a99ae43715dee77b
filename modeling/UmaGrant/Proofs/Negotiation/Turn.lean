import UmaGrant.Proofs.Negotiation.Concluding
/-! # Turns

A turn is one request to a server, with the instant at which it comes and the realm that it finds.
All that comes of it follows from these. Of the store a turn takes away the ticket that it names, and
it adds the ticket that it hands out, if it hands one out.
-/

namespace UmaGrant

/-- One request to a server. -/
structure Turn where
  now : Instant
  request : TokenRequest
  /-- The realm as the request finds it. -/
  realm : Realm

namespace Turn

/-- How a turn goes. -/
def passage (server : Server) (turn : Turn) : Passage TokenResponse :=
  (server.negotiate turn.now turn.request).run turn.realm

/-- The answer to a turn. -/
def answer (server : Server) (turn : Turn) : Except Halt TokenResponse := (turn.passage server).outcome

/-- The realm that a turn leaves. -/
def left (server : Server) (turn : Turn) : Realm := (turn.passage server).realm

/-- How the first part of a turn goes, in which its ticket is weighed. -/
def weighing (server : Server) (turn : Turn) : Passage (Ticket × Resolution) :=
  (server.weigh turn.now turn.request).run turn.realm

/-- What a turn asks for, if it opens a negotiation. -/
def asked? (turn : Turn) : Option (List Permission) :=
  match turn.request.check with
  | .ok ⟨.begin asked, _⟩ => some asked
  | _ => none

/-- The claim sets that are proven in a turn, in order. -/
def shown (server : Server) (turn : Turn) : List Claims :=
  match turn.request.check with
  | .ok checked => server.verifier.provenClaims turn.now checked.tokens turn.realm.factories
  | .error _ => []

/-- The identifier under which a turn hands its ticket out, which is the one in the answer that more
claims are needed. The same error from a collaborator hands nothing out, nor does a store that is out
of order. -/
def handedOut? (server : Server) (turn : Turn) : Option String :=
  match server.putOutage, (turn.weighing server).outcome, turn.answer server with
  | none, .ok (_, .failure _), .error (.refused (.needInfo id _)) => some id
  | _, _, _ => none

/-- Whether a turn is answered by an access token, and what that says. -/
def Issues (server : Server) (turn : Turn) (payload : AccessToken) : Prop :=
  ((server.grant turn.now turn.request).run turn.realm).outcome = .ok payload ∧
    ∃ response, turn.answer server = .ok response

variable {server : Server} {turn : Turn}

theorem handedOut?_eq_some_iff {id : String} :
    turn.handedOut? server = some id ↔
      server.putOutage = none ∧
        (∃ ticket missing, (turn.weighing server).outcome = .ok (ticket, .failure missing)) ∧
        ∃ required, turn.answer server = .error (.refused (.needInfo id required)) := by
  unfold handedOut?
  constructor
  · intro handed
    split at handed
    case h_1 working ended answered =>
      cases handed
      exact ⟨working, ⟨_, _, ended⟩, _, answered⟩
    case h_2 => cases handed
  · rintro ⟨working, ⟨ticket, missing, ended⟩, required, answered⟩
    rw [working, ended, answered]

/-- Nothing is handed out unless the ticket of the turn has been weighed in vain. -/
theorem handedOut?_eq_none (unfailed : ∀ ticket missing,
    (turn.weighing server).outcome ≠ .ok (ticket, .failure missing)) :
    turn.handedOut? server = none := by
  refine Option.eq_none_iff_forall_ne_some.mpr fun id handed => ?_
  obtain ⟨_, ⟨ticket, missing, failed⟩, _⟩ := handedOut?_eq_some_iff.mp handed
  exact unfailed ticket missing failed

/-- Nothing is handed out with any other answer than that more claims are needed. -/
theorem handedOut?_eq_none_of_answer {halt : Halt} (answered : turn.answer server = .error halt)
    (quiet : server.putOutage = none → ∀ id required, halt ≠ .refused (.needInfo id required)) :
    turn.handedOut? server = none := by
  refine Option.eq_none_iff_forall_ne_some.mpr fun id handed => ?_
  obtain ⟨working, _, required, told⟩ := handedOut?_eq_some_iff.mp handed
  exact quiet working id required (Except.error.inj (answered.symm.trans told))

theorem of_weighing_error {halt : Halt} (ended : (turn.weighing server).outcome = .error halt) :
    turn.answer server = .error halt ∧ turn.left server = (turn.weighing server).realm := by
  unfold weighing at ended ⊢
  rw [answer, left, passage, Server.negotiate_eq, Round.run_bind, ended]
  exact ⟨rfl, rfl⟩

theorem of_weighing_ok {weighed : Ticket × Resolution}
    (ended : (turn.weighing server).outcome = .ok weighed) :
    turn.answer server =
        ((server.conclude turn.now weighed).run (turn.weighing server).realm).outcome ∧
      turn.left server =
        ((server.conclude turn.now weighed).run (turn.weighing server).realm).realm := by
  unfold weighing at ended ⊢
  rw [answer, left, passage, Server.negotiate_eq, Round.run_bind, ended]
  exact ⟨rfl, rfl⟩

theorem weighing_continues (server : Server) (turn : Turn) :
    ({ turn.realm with
        tickets := server.storeWithout turn.now turn.request turn.realm.tickets } : Realm).Continues
      (turn.weighing server).realm :=
  server.weigh_continues turn.now turn.request turn.realm

/-- An access token says something. -/
theorem exists_issues {response : TokenResponse} (answered : turn.answer server = .ok response) :
    ∃ payload, turn.Issues server payload := by
  have negotiated : (server.negotiate turn.now turn.request).Ends turn.realm (.ok response)
      (turn.left server) := ⟨answered, rfl⟩
  rw [Server.negotiate_eq_grant] at negotiated
  obtain ⟨payload, _, granted, _⟩ := Round.ends_bind_ok.mp negotiated
  exact ⟨payload, granted.1, response, answered⟩

/-- What a token says has been granted on the ticket of the turn. -/
theorem Issues.weighing {payload : AccessToken} (issued : turn.Issues server payload) :
    ∃ ticket, (turn.weighing server).outcome = .ok (ticket, .success payload.permissions) := by
  obtain ⟨ticket, _, ended, _⟩ := Server.grant_ends ⟨issued.1, rfl⟩
  exact ⟨ticket, ended⟩

/-- The token of an answer comes from the factory of the server, and the answer names the source that
it opens. -/
theorem Issues.minted {payload : AccessToken} (issued : turn.Issues server payload) :
    ∃ (realm : Realm) (token : IssuedToken) (factories : TokenFactories) (supply : Supply),
      realm.factories.issue server.factory turn.now realm.supply payload =
        (.ok token, factories, supply) ∧
      turn.answer server =
        .ok ⟨token.text, token.type, Server.derivationId? payload.permissions⟩ ∧
      turn.left server = { realm with factories, supply } := by
  obtain ⟨granted, response, answered⟩ := issued
  refine ⟨((server.grant turn.now turn.request).run turn.realm).realm, ?_⟩
  unfold answer left passage at *
  rw [Server.negotiate_eq_grant, Round.run_bind, granted] at answered ⊢
  dsimp only at answered ⊢
  rw [Server.run_issue] at answered ⊢
  dsimp only at answered ⊢
  generalize TokenFactories.issue _ _ _ _ _ = made at answered ⊢
  obtain ⟨outcome, factories, supply⟩ := made
  cases outcome with
  | error halt => cases answered
  | ok token => exact ⟨token, factories, supply, rfl, rfl, rfl⟩

/-- Without contracts a token says what has been granted and nothing else. -/
theorem issues_of_weighing (plain : server.contracting = none) {ticket : Ticket}
    {granted : List Permission} {response : TokenResponse}
    (ended : (turn.weighing server).outcome = .ok (ticket, .success granted))
    (answered : turn.answer server = .ok response) : turn.Issues server ⟨granted, none⟩ := by
  refine ⟨?_, response, answered⟩
  change ((server.weigh turn.now turn.request).run turn.realm).outcome = _ at ended
  rw [Server.grant, Server.settle_eq, bind_assoc, Round.run_bind, ended]
  simp only [Server.settleWeighed, Server.draft, plain, pure_bind]
  rfl

/-! ## What turns do to the store -/

/-- The realm that a turn leaves in weighing its ticket, with a number drawn. -/
def drawn (server : Server) (turn : Turn) : Realm :=
  { (turn.weighing server).realm with supply := ⟨(turn.weighing server).realm.supply.next + 1⟩ }

/-- The identifier under which a turn hands out its ticket, if it does. -/
def freshId (server : Server) (turn : Turn) : String :=
  Fresh.identifier (turn.weighing server).realm.supply.next

/-- The realm that a turn leaves in putting a ticket back into the store. -/
def suspended (server : Server) (turn : Turn) (stored : StoredTicket) : Realm :=
  { turn.drawn server with
    tickets := { (turn.weighing server).realm.tickets with
      entries := (turn.weighing server).realm.tickets.entries.insert (turn.freshId server) stored } }

/-- Whether a turn puts a ticket back into the store, with this end of its life. -/
structure PutsBack (server : Server) (turn : Turn) (ticket : Ticket) (expiresAt : Instant) : Prop where
  weighed : ∃ missing, (turn.weighing server).outcome = .ok (ticket, .failure missing)
  handedOut : turn.handedOut? server = some (turn.freshId server)
  expiry : turn.now.after? turn.realm.tickets.lifetime = some expiresAt
  drawn : (turn.weighing server).realm.supply.next < (turn.left server).supply.next
  stored : (turn.left server).tickets =
    { server.storeWithout turn.now turn.request turn.realm.tickets with
      entries := (server.storeWithout turn.now turn.request turn.realm.tickets).entries.insert
        (turn.freshId server) ⟨ticket, expiresAt⟩ }

theorem PutsBack.present {ticket : Ticket} {expiresAt : Instant}
    (putsBack : turn.PutsBack server ticket expiresAt) :
    (turn.left server).tickets.entries.get? (turn.freshId server) = some ⟨ticket, expiresAt⟩ := by
  rw [putsBack.stored]
  exact Dict.get?_insert_same _ _ _

/-- How a turn ends that has resolved its ticket in vain. -/
inductive Suspends (server : Server) (turn : Turn) (ticket : Ticket) (missing : List MissingClaims) :
    Prop
  /-- With a denial if nothing could help, and then the ticket is gone. -/
  | denied (helpless : ticket.required = [] ∧ missing.filterMap MissingClaims.derivation? = [])
      (answered : turn.answer server = .error (.refused .requestDenied))
      (left : turn.left server = (turn.weighing server).realm)
  /-- With the error of the store if that is out of order. -/
  | broken {error : GrantError} (outage : server.putOutage = some error)
      (helped : ¬ (ticket.required = [] ∧ missing.filterMap MissingClaims.derivation? = []))
      (answered : turn.answer server = .error (.refused error))
      (left : turn.left server = turn.drawn server)
  /-- Without an answer if the end of the life of the ticket has no date. -/
  | undated (working : server.putOutage = none)
      (helped : ¬ (ticket.required = [] ∧ missing.filterMap MissingClaims.derivation? = []))
      (expiry : turn.now.after? turn.realm.tickets.lifetime = none)
      (answered : turn.answer server = .error .beyondCalendar)
      (left : turn.left server = turn.drawn server)
  /-- Else with the demand of what is missing, and the ticket is back in the store. -/
  | told (working : server.putOutage = none)
      (helped : ¬ (ticket.required = [] ∧ missing.filterMap MissingClaims.derivation? = []))
      (expiresAt : Instant) (putsBack : turn.PutsBack server ticket expiresAt)
      (answered : turn.answer server = .error (.refused (.needInfo (turn.freshId server)
        ⟨ticket.outstandingClaimTypes, missing.filterMap MissingClaims.derivation?⟩)))
      (left : turn.left server = turn.suspended server ⟨ticket, expiresAt⟩)

/-- Weighing leaves the store without the ticket that the request names. -/
theorem tickets_weighing (server : Server) (turn : Turn) : (turn.weighing server).realm.tickets =
    server.storeWithout turn.now turn.request turn.realm.tickets :=
  (turn.weighing_continues server).tickets

theorem lifetime_weighing (server : Server) (turn : Turn) :
    (turn.weighing server).realm.tickets.lifetime = turn.realm.tickets.lifetime := by
  rw [tickets_weighing]
  exact (Server.storeWithout_within _).lifetime

theorem suspends_of_weighing {ticket : Ticket} {missing : List MissingClaims}
    (weighed : (turn.weighing server).outcome = .ok (ticket, .failure missing)) :
    turn.Suspends server ticket missing := by
  obtain ⟨answered, left⟩ := of_weighing_ok weighed
  have lifetime := turn.lifetime_weighing server
  change _ = ((server.suspend turn.now ticket missing).run _).outcome at answered
  change _ = ((server.suspend turn.now ticket missing).run _).realm at left
  rw [Server.run_suspend] at answered left
  dsimp only at answered left
  have helpless : (ticket.required.isEmpty &&
      (missing.filterMap MissingClaims.derivation?).isEmpty) = true ↔
      ticket.required = [] ∧ missing.filterMap MissingClaims.derivation? = [] := by
    rw [Bool.and_eq_true, List.isEmpty_iff, List.isEmpty_iff]
  by_cases denied : (ticket.required.isEmpty &&
      (missing.filterMap MissingClaims.derivation?).isEmpty) = true
  · rw [if_pos denied] at answered left
    exact .denied (helpless.mp denied) answered left
  · rw [if_neg denied] at answered left
    have helped := mt helpless.mpr denied
    cases outage : server.putOutage with
    | some error =>
      rw [outage] at answered left
      exact .broken outage helped answered left
    | none =>
      rw [outage, Tickets.put?] at answered left
      cases expiry : turn.now.after? (turn.weighing server).realm.tickets.lifetime with
      | none =>
        rw [expiry] at answered left
        exact .undated outage helped (lifetime ▸ expiry) answered left
      | some expiresAt =>
        rw [expiry] at answered left
        have handed : turn.handedOut? server = some (turn.freshId server) :=
          handedOut?_eq_some_iff.mpr ⟨outage, ⟨ticket, missing, weighed⟩, _, answered⟩
        refine .told outage helped expiresAt ⟨⟨missing, weighed⟩, handed, lifetime ▸ expiry, ?_, ?_⟩
          answered left
        · rw [left]
          exact Nat.lt_succ_self _
        · rw [left, ← tickets_weighing]
          rfl

/-- A turn that hands out an identifier has put its ticket back under that. -/
theorem told_of_handedOut {id : String} (handed : turn.handedOut? server = some id) :
    ∃ ticket missing expiresAt, (turn.weighing server).outcome = .ok (ticket, .failure missing) ∧
      id = turn.freshId server ∧ turn.PutsBack server ticket expiresAt ∧
      turn.answer server = .error (.refused (.needInfo id
        ⟨ticket.outstandingClaimTypes, missing.filterMap MissingClaims.derivation?⟩)) ∧
      turn.left server = turn.suspended server ⟨ticket, expiresAt⟩ := by
  obtain ⟨working, ⟨ticket, missing, weighed⟩, required, answered⟩ :=
    handedOut?_eq_some_iff.mp handed
  cases suspends_of_weighing weighed with
  | denied _ denied _ => cases denied.symm.trans answered
  | broken outage => cases working.symm.trans outage
  | undated _ _ _ undated _ => cases undated.symm.trans answered
  | told _ _ expiresAt putsBack told left =>
    cases told.symm.trans answered
    exact ⟨ticket, missing, expiresAt, weighed, rfl, putsBack, told, left⟩

/-- A turn either puts a ticket back under the identifier that it hands out, or hands none out and
puts nothing into the store. -/
theorem store_cases (server : Server) (turn : Turn) :
    (turn.handedOut? server = none ∧ (turn.left server).tickets =
        server.storeWithout turn.now turn.request turn.realm.tickets) ∨
      ∃ ticket expiresAt, turn.PutsBack server ticket expiresAt := by
  have start := turn.tickets_weighing server
  cases ended : (turn.weighing server).outcome with
  | error halt =>
    obtain ⟨_, same⟩ := of_weighing_error ended
    exact .inl ⟨handedOut?_eq_none (by rw [ended]; exact nofun), same ▸ start⟩
  | ok weighed =>
    obtain ⟨ticket, resolution⟩ := weighed
    cases resolution with
    | success granted =>
      refine .inl ⟨handedOut?_eq_none (by rw [ended]; exact nofun), ?_⟩
      rw [(of_weighing_ok ended).2, (Server.isSteady_award ticket granted _).tickets, start]
    | failure missing =>
      cases suspends_of_weighing ended with
      | denied helpless answered left =>
        exact .inl ⟨handedOut?_eq_none_of_answer answered fun _ => nofun, left ▸ start⟩
      | broken outage helped answered left =>
        refine .inl ⟨handedOut?_eq_none_of_answer answered fun working => ?_, left ▸ start⟩
        cases working.symm.trans outage
      | undated working helped expiry answered left =>
        exact .inl ⟨handedOut?_eq_none_of_answer answered fun _ => nofun, left ▸ start⟩
      | told working helped expiresAt putsBack answered left =>
        exact .inr ⟨ticket, expiresAt, putsBack⟩

/-- No turn draws numbers that come before those of the realm that it finds. -/
theorem supply_left (server : Server) (turn : Turn) :
    turn.realm.supply.next ≤ (turn.left server).supply.next := by
  have start : turn.realm.supply.next ≤ (turn.weighing server).realm.supply.next :=
    (turn.weighing_continues server).supply
  refine Nat.le_trans start ?_
  cases ended : (turn.weighing server).outcome with
  | error halt =>
    exact Nat.le_of_eq (congrArg (·.supply.next) (of_weighing_error ended).2.symm)
  | ok weighed =>
    obtain ⟨ticket, resolution⟩ := weighed
    rw [(of_weighing_ok ended).2]
    cases resolution with
    | success granted => exact (Server.isSteady_award ticket granted _).supply
    | failure missing => exact Server.supply_suspend ticket missing

/-- The identifier that a turn hands out is that of a number which the turn has drawn. -/
theorem handedOut?_drawn {id : String} (handed : turn.handedOut? server = some id) :
    ∃ number, id = Fresh.identifier number ∧ turn.realm.supply.next ≤ number ∧
      number < (turn.left server).supply.next := by
  have start : turn.realm.supply.next ≤ (turn.weighing server).realm.supply.next :=
    (turn.weighing_continues server).supply
  rcases turn.store_cases server with ⟨silent, _⟩ | ⟨ticket, expiresAt, putsBack⟩
  · rw [silent] at handed
    cases handed
  · rw [putsBack.handedOut] at handed
    cases handed
    exact ⟨_, rfl, start, putsBack.drawn⟩

end Turn

end UmaGrant
