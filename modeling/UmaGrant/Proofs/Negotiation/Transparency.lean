import UmaGrant.Proofs.Negotiation.Recipe
import UmaGrant.Proofs.Strategy.Transparency
/-! # A server for which nothing is derived

A server that knows derived resources goes through the same rounds as the server without that knowledge,
as long as nothing that comes to it has to do with them. Each round weighs the same ticket and comes to
the same resolution, and draws the same fresh values on the way. So the two servers give the same answers
to the letter, and no fresh value has to be renamed to compare them.
-/

namespace UmaGrant

/-- The server without its knowledge of derived resources. -/
def Server.bare (server : Server) : Server := { server with strategy := server.strategy.bare }

/-- Whether no ticket in the store of a realm has to do with derived resources. -/
def Realm.IsPlain (realm : Realm) : Prop :=
  ∀ id stored, realm.tickets.entries.get? id = some stored → stored.ticket.IsPlain

theorem Realm.IsPlain.within {realm earlier : Realm} (plain : earlier.IsPlain)
    (within : realm.tickets.Within earlier.tickets) : realm.IsPlain :=
  fun id stored found => plain id stored (within.entries id stored found)

/-- Whether a turn has nothing to do with derived resources, neither by what it asks for nor by what is
proven in it. -/
structure Turn.IsPlain (server : Server) (codec : IdCodec) (turn : Turn) : Prop where
  asked : ∀ asked, turn.asked? = some asked →
    ∀ permission ∈ asked, permission.IsPlain codec turn.realm.descriptions
  shown : ∀ claims ∈ turn.shown server, claims.get? ClaimType.access = none

namespace Server

variable {server : Server} {codec : IdCodec} {now : Instant} {realm : Realm} {ticket : Ticket}
  {tokens : List ClaimToken}

/-! ## The parts of a round -/

private theorem openTicket_bare (coded : server.strategy.codec = some codec) {asked : List Permission}
    (plain : ∀ permission ∈ asked, permission.IsPlain codec realm.descriptions) :
    (server.openTicket asked).run realm = (server.bare.openTicket asked).run realm := by
  rw [openTicket, openTicket, Round.run_realm_bind, Round.run_realm_bind,
    Strategy.openTicket_bare coded plain]
  rfl

private theorem addTokens_bare (coded : server.strategy.codec = some codec)
    (silent : ∀ claims ∈ server.verifier.provenClaims now tokens realm.factories,
      claims.get? ClaimType.access = none) :
    (server.addTokens now ticket tokens).run realm =
      (server.bare.addTokens now ticket tokens).run realm := by
  induction tokens generalizing ticket realm with
  | nil => rfl
  | cons token rest ih =>
    refine Round.run_bind_congr rfl fun claims left verified => ?_
    have proven := verifyToken_ends verified
    rw [Verifier.provenClaims_ok (congrArg Prod.fst proven), proven] at silent
    obtain ⟨first, others⟩ := List.forall_mem_cons.mp silent
    rw [Strategy.addClaims_bare coded first]
    exact Round.run_bind_congr rfl fun grown after added => ih (added.2 ▸ others)

private theorem resolveTicket_bare (coded : server.strategy.codec = some codec)
    (own : server.strategy.settlement.authorizer.isOwn = true) (plain : ticket.IsPlain) :
    (server.resolveTicket ticket).run realm = (server.bare.resolveTicket ticket).run realm := by
  rw [resolveTicket, resolveTicket, Round.run_realm_bind, Round.run_realm_bind,
    Strategy.resolve_bare coded own plain]
  rfl

private theorem pursue_bare (coded : server.strategy.codec = some codec)
    (own : server.strategy.settlement.authorizer.isOwn = true) (plain : ticket.IsPlain)
    (silent : ∀ claims ∈ server.verifier.provenClaims now tokens realm.factories,
      claims.get? ClaimType.access = none) :
    (server.pursue now ticket tokens).run realm = (server.bare.pursue now ticket tokens).run realm := by
  refine Round.run_bind_congr (addTokens_bare coded silent) fun grown left added => ?_
  have plainGrown : grown.IsPlain := by
    rw [addTokens_ends added]
    exact Strategy.isPlain_addAll plain coded silent
  exact Round.run_bind_congr (resolveTicket_bare coded own plainGrown) fun _ _ _ => rfl

end Server

namespace Turn

variable {server : Server} {codec : IdCodec} {turn : Turn}

/-! ## A plain turn -/

/-- The ticket of a plain turn is plain, wherever it comes from. -/
private theorem isPlain_obtained (coded : server.strategy.codec = some codec)
    (plain : turn.IsPlain server codec) (before : turn.realm.IsPlain)
    {aim : TokenRequest.Aim} {tokens : List ClaimToken}
    (checks : turn.request.check = .ok ⟨aim, tokens⟩) {ticket : Ticket}
    (source : server.Obtains turn.now turn.realm aim ticket) : ticket.IsPlain := by
  cases source with
  | @taken id stored working found live => exact before id stored found
  | @opened asked sourced opening =>
    exact Strategy.isPlain_openTicket coded (plain.asked asked (by rw [asked?, checks])) opening

/-- It is plain when it is resolved, too. -/
theorem isPlain_weighed (coded : server.strategy.codec = some codec)
    (plain : turn.IsPlain server codec) (before : turn.realm.IsPlain) {ticket : Ticket}
    {resolution : Resolution} (weighed : (turn.weighing server).outcome = .ok (ticket, resolution)) :
    ticket.IsPlain := by
  obtain ⟨⟨aim, tokens⟩, start, checks, source, rfl, _⟩ := Server.weigh_ends ⟨weighed, rfl⟩
  have silent := plain.shown
  rw [shown, checks] at silent
  exact Strategy.isPlain_addAll (isPlain_obtained coded plain before checks source) coded silent

/-- Only plain tickets are left in the store. -/
theorem isPlain_left (coded : server.strategy.codec = some codec)
    (plain : turn.IsPlain server codec) (before : turn.realm.IsPlain) :
    (turn.left server).IsPlain := by
  rcases turn.store_cases server with ⟨_, left⟩ | ⟨ticket, expiresAt, putsBack⟩
  · exact before.within (left ▸ Server.storeWithout_within _)
  · intro id stored present
    rw [putsBack.stored, Dict.get?_insert] at present
    by_cases same : id = turn.freshId server
    · rw [if_pos same] at present
      cases present
      obtain ⟨missing, weighed⟩ := putsBack.weighed
      exact isPlain_weighed coded plain before weighed
    · rw [if_neg same] at present
      exact before id stored ((Server.storeWithout_within _).entries id stored present)

/-- The ticket of a plain turn is weighed as without the knowledge of derived resources. -/
theorem weighing_bare (coded : server.strategy.codec = some codec)
    (own : server.strategy.settlement.authorizer.isOwn = true) (plain : turn.IsPlain server codec)
    (before : turn.realm.IsPlain) : turn.weighing server = turn.weighing server.bare := by
  unfold weighing
  cases checks : turn.request.check with
  | error error => rw [Server.run_weigh_error checks, Server.run_weigh_error checks]
  | ok checked =>
    obtain ⟨aim, tokens⟩ := checked
    rw [Server.run_weigh checks, Server.run_weigh checks]
    have same : (server.obtainTicket turn.now aim).run turn.realm =
        (server.bare.obtainTicket turn.now aim).run turn.realm := by
      cases aim with
      | resume id => rfl
      | begin asked => exact Server.openTicket_bare coded (plain.asked asked (by rw [asked?, checks]))
    refine Round.run_bind_congr same fun ticket left obtained => ?_
    obtain ⟨source, _, factories⟩ := Server.obtainTicket_ends obtained
    refine Server.pursue_bare coded own (isPlain_obtained coded plain before checks source) ?_
    have silent := plain.shown
    rw [shown, checks] at silent
    rwa [factories]

/-- Whether a turn goes as it would without the knowledge of derived resources. -/
structure Transparent (server : Server) (turn : Turn) : Prop where
  /-- The ticket is the same, and so is what is granted on it or what is missing. -/
  weighing : turn.weighing server = turn.weighing server.bare
  /-- So is the answer, and the realm that is left with all its tickets. -/
  passage : turn.passage server = turn.passage server.bare
  /-- An access token says the same. -/
  issues : ∀ payload, turn.Issues server payload ↔ turn.Issues server.bare payload
  /-- No source is demanded. -/
  sourceless : ∀ ticket missing, (turn.weighing server).outcome = .ok (ticket, .failure missing) →
    missing.filterMap MissingClaims.derivation? = []
  /-- No source is opened for another server. -/
  opensNone : ∀ response, turn.answer server = .ok response → response.derivationResourceId = none

/-- A plain turn that finds only plain tickets goes as without the knowledge of derived resources. -/
theorem IsPlain.transparent (coded : server.strategy.codec = some codec)
    (own : server.strategy.settlement.authorizer.isOwn = true) (plain : turn.IsPlain server codec)
    (before : turn.realm.IsPlain) : turn.Transparent server := by
  have weighing := weighing_bare coded own plain before
  have passage : turn.passage server = turn.passage server.bare := by
    unfold passage
    rw [Server.negotiate_eq, Server.negotiate_eq]
    exact Round.run_bind_congr weighing fun _ _ _ => rfl
  refine ⟨weighing, passage, fun payload => ?_, fun ticket missing failed => ?_,
    fun response answered => ?_⟩
  · have granting : (server.grant turn.now turn.request).run turn.realm =
        (server.bare.grant turn.now turn.request).run turn.realm := by
      rw [Server.grant, Server.grant, Server.settle_eq, Server.settle_eq]
      refine Round.run_bind_congr ?_ fun _ _ _ => rfl
      exact Round.run_bind_congr weighing fun _ _ _ => rfl
    unfold Issues answer
    rw [granting, passage]
  · obtain ⟨_, _, _, _, _, supply, resolved⟩ := Server.weigh_ends ⟨failed, rfl⟩
    exact Strategy.derivations_of_isPlain (isPlain_weighed coded plain before failed) resolved
  · obtain ⟨payload, issued⟩ := exists_issues answered
    obtain ⟨ticket, weighed⟩ := issued.weighing
    obtain ⟨_, _, _, _, _, supply, resolved⟩ := Server.weigh_ends ⟨weighed, rfl⟩
    have opensNone := Strategy.hasScope_of_isPlain coded own (isPlain_weighed coded plain before weighed)
      resolved
    obtain ⟨_, token, _, _, _, told, _⟩ := issued.minted
    cases answered.symm.trans told
    rw [Server.derivationId?, List.find?_eq_none.mpr fun grant member => by simp [opensNone grant member]]
    rfl

end Turn

/-! ## Runs on the same inputs -/

/-- What comes to a server from outside: what happens to its realm before a request, and the request. -/
structure Visit where
  meanwhile : Realm → Realm
  /-- Nothing but turns of the server stores tickets. -/
  within : ∀ realm, (meanwhile realm).tickets.Within realm.tickets
  now : Instant
  request : TokenRequest

namespace Server

variable {server : Server} {codec : IdCodec} {realm : Realm}

/-- The turns that visits come to, one after the other, each in the realm that the one before has left. -/
def turns (server : Server) : Realm → List Visit → List Turn
  | _, [] => []
  | realm, visit :: rest =>
    let turn : Turn := ⟨visit.now, visit.request, visit.meanwhile realm⟩
    turn :: server.turns (turn.left server) rest

/-- From plain tickets on, plain visits come to the same turns with and without the knowledge of derived
resources. -/
private theorem turns_bare_of_isPlain (coded : server.strategy.codec = some codec)
    (own : server.strategy.settlement.authorizer.isOwn = true) (start : realm.IsPlain)
    (visits : List Visit) (plain : ∀ turn ∈ server.turns realm visits, turn.IsPlain server codec) :
    server.bare.turns realm visits = server.turns realm visits ∧
      ∀ turn ∈ server.turns realm visits, turn.Transparent server := by
  induction visits generalizing realm with
  | nil => exact ⟨rfl, List.forall_mem_nil _⟩
  | cons visit rest ih =>
    obtain ⟨first, others⟩ := List.forall_mem_cons.mp plain
    have before : (visit.meanwhile realm).IsPlain := start.within (visit.within realm)
    have transparent := first.transparent coded own before
    obtain ⟨same, later⟩ := ih (Turn.isPlain_left coded first before) others
    refine ⟨?_, List.forall_mem_cons.mpr ⟨transparent, later⟩⟩
    rw [turns, turns, ← same, Turn.left, Turn.left, transparent.passage]

/-- A server that knows derived resources, and starts from an empty store, goes through the same run as
the server without that knowledge as long as nothing is derived. -/
theorem turns_bare (coded : server.strategy.codec = some codec)
    (own : server.strategy.settlement.authorizer.isOwn = true)
    (empty : realm.tickets.entries = .empty) (visits : List Visit)
    (plain : ∀ turn ∈ server.turns realm visits, turn.IsPlain server codec) :
    server.bare.turns realm visits = server.turns realm visits ∧
      ∀ turn ∈ server.turns realm visits, turn.Transparent server := by
  refine turns_bare_of_isPlain coded own (fun id stored found => ?_) visits plain
  rw [empty] at found
  cases found

end Server

/-! ## A note for one reader

The note is derived from nothing. Its reader is told to show a WebID, and comes back with it. -/

namespace Report

def note : Permission := .of "note" [Scope.read]

/-- What comes to a server when nothing happens in between. -/
def visit (request : TokenRequest) : Visit := ⟨id, fun realm => .refl realm.tickets, ⟨0⟩, request⟩

def noteVisits : List Visit :=
  [visit (.forPermissions [note]),
    visit ((TokenRequest.forTicket (Fresh.identifier 0)).push ⟨reader, ClaimFormat.bareWebId⟩)]

theorem isPlain_noteVisits :
    ∀ turn ∈ guarding.turns realm noteVisits, turn.IsPlain guarding codec := by
  refine List.forall_mem_cons.mpr ⟨⟨fun asked asking => ?_, nofun⟩, ?_⟩
  · cases asking
    refine List.forall_mem_singleton.mpr ⟨rfl, ⟨none, rfl, nofun⟩, ?_⟩
    exact List.forall_mem_singleton.mpr (by decide)
  · exact List.forall_mem_singleton.mpr ⟨nofun, List.forall_mem_singleton.mpr rfl⟩

end Report

namespace Server

theorem turns_bare_note :
    ∃ asking showing, Report.guarding.bare.turns Report.realm Report.noteVisits = [asking, showing] ∧
      asking.handedOut? Report.guarding = some (Fresh.identifier 0) ∧
      showing.Issues Report.guarding.bare ⟨[Report.note], none⟩ := by
  obtain ⟨same, transparent⟩ := @turns_bare Report.guarding Report.codec Report.realm rfl rfl rfl
    Report.noteVisits Report.isPlain_noteVisits
  refine ⟨_, _, same, rfl, ?_⟩
  refine ((transparent _ (List.mem_cons_of_mem _ List.mem_cons_self)).issues _).mp ?_
  exact ⟨rfl, _, rfl⟩

end Server

end UmaGrant
