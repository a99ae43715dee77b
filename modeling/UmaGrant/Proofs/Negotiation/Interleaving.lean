import UmaGrant.Proofs.Negotiation.Alike
import UmaGrant.Proofs.Negotiation.Lasting
import UmaGrant.Proofs.Negotiation.Run
/-! # Clients among others

Several clients send requests to one server, in any order. Each goes on with tickets that it was given
itself. What a client is answered is what it would have been answered without the others, up to fresh
values, except for the issuers of sources for which another client has had a different server written
down: the register of the servers behind sources is kept by the identifier of the source alone, for all
clients together.
-/

namespace UmaGrant

/-! ## The rounds of others -/

section

variable {server : Server} {concerns : String → Prop} {listings : Listings}
  {start alone : Realm} {pairs : List (String × String)}

/-- Realms stay parallel for a client whatever others do in the second one, if they do not name its
tickets. -/
private theorem Server.preserves_parallel {now : Instant} {request : TokenRequest}
    (unmade : ∀ text, concerns text → start.supply.Unmade text)
    (live : start.factories.NoneExpired concerns now)
    (foreign : ∀ id, request.named? = some id → ∀ pair ∈ pairs, pair.2 ≠ id)
    (others : ∀ source, request.Lists server.strategy start.descriptions source →
      listings.others source) :
    server.Preserves now request (start.Parallel concerns listings pairs alone) where
  takes realm id named parallel :=
    { parallel with
      stemsToo := { parallel.stemsToo with }
      tickets := fun pair member =>
        (Dict.get?_erase_other _ (foreign id named pair member)).trans (parallel.tickets pair member) }
  opens realm asked tokens sourced checks parallel opened := by
    rw [Strategy.openTicket_eq, parallel.stemsToo.descriptions] at opened
    cases opens : server.strategy.opening start.descriptions asked <;> rw [opens] at opened <;>
      cases opened
    obtain ⟨listed, _⟩ := Strategy.opening_sources opens
    exact
      { parallel with
        stemsToo := { parallel.stemsToo with }
        back := fun pair member stored found =>
          (parallel.back pair member stored found).register_others
            fun source among => others source ⟨asked, tokens, checks, listed source among⟩ }
  verifies realm checked token checks member parallel :=
    { parallel with
      stemsToo := (parallel.stemsToo.verify token server.verifier).2 (.inl live) }
  draws realm supply fresh parallel := parallel.draw (Nat.le_refl _) fresh
  stores realm ticket tickets stored parallel := by
    obtain ⟨expiresAt, _, rfl⟩ := Option.map_eq_some_iff.mp stored
    have drawn := parallel.draw (Nat.le_refl _) (Nat.le_succ realm.supply.next)
    exact
      { drawn with
        stemsToo := { drawn.stemsToo with }
        tickets := fun pair member => by
          have differ := (parallel.drawnToo pair member).ne_next (Nat.le_refl _)
          exact (Dict.get?_insert_other _ differ _).trans (parallel.tickets pair member) }
  issues realm payload issued factories supply issuing parallel :=
    { parallel.draw (Nat.le_refl _) (TokenFactories.supply_issue issuing) with
      stems := parallel.stems
      stemsToo := parallel.stemsToo.issue unmade issuing }

private theorem Turn.left_parallel {turn : Turn} (plain : server.contracting = none)
    (unmade : ∀ text, concerns text → start.supply.Unmade text)
    (live : start.factories.NoneExpired concerns turn.now)
    (foreign : ∀ id, turn.request.named? = some id → ∀ pair ∈ pairs, pair.2 ≠ id)
    (others : ∀ source, turn.request.Lists server.strategy start.descriptions source →
      listings.others source)
    (parallel : start.Parallel concerns listings pairs alone turn.realm) :
    start.Parallel concerns listings pairs alone (turn.left server) :=
  (Server.preserves_parallel unmade live foreign others).negotiate plain _ parallel

end

/-! ## Sessions -/

/-- What a client does next. -/
structure Move where
  now : Instant
  /-- Which of the tickets that the client was given it goes on with, if it does not start anew. -/
  resumes : Option Nat
  /-- The rest of the request. -/
  request : TokenRequest

namespace Move

/-- The request that a client makes. -/
def requestWith (move : Move) (given : List String) : TokenRequest :=
  { move.request with ticket := move.resumes.bind fun index => given[index]? }

/-- Whether a text is pushed as a claim token. -/
def Pushes (move : Move) (text : String) : Prop :=
  ∃ tokens, move.request.claimTokens = .ok tokens ∧ ∃ token ∈ tokens, token.token = text

theorem pushesOnly {move : Move} {concerns : String → Prop}
    (concerned : ∀ text, move.Pushes text → concerns text) (given : List String) :
    (move.requestWith given).PushesOnly concerns := by
  intro checked checks token member
  obtain ⟨aim, _, checks⟩ := except_bind_eq_ok_iff.mp checks
  obtain ⟨tokens, read, same⟩ := except_bind_eq_ok_iff.mp checks
  cases same
  exact concerned token.token ⟨tokens, read, token, member, rfl⟩

private theorem requestWith_eq (move : Move) {given : List String} {ticket : Option String}
    (resumed : (move.resumes.bind fun index => given[index]?) = ticket) :
    move.requestWith given = { move.request with ticket } := by
  rw [requestWith, resumed]

/-- A request that names a ticket names the one that it carries. -/
private theorem ticket_of_named? {request : TokenRequest} {id : String}
    (named : request.named? = some id) : request.ticket = some id := by
  obtain ⟨tokens, checks⟩ := TokenRequest.named?_eq_some_iff.mp named
  obtain ⟨aim, aimed, checks⟩ := except_bind_eq_ok_iff.mp checks
  obtain ⟨_, _, same⟩ := except_bind_eq_ok_iff.mp checks
  cases same
  unfold TokenRequest.aim at aimed
  split at aimed <;> cases aimed
  assumption

/-- A move that names a ticket names one that the client was given. -/
theorem mem_given {move : Move} {given : List String} {id : String}
    (named : (move.requestWith given).named? = some id) : id ∈ given := by
  have carried : (move.resumes.bind fun index => given[index]?) = some id := ticket_of_named? named
  obtain ⟨index, _, found⟩ := Option.bind_eq_some_iff.mp carried
  exact List.mem_of_getElem? found

/-- A request without a ticket has the same aim whatever was given. -/
private theorem paired_self (pairs : List (String × String)) {request : TokenRequest}
    (unticketed : request.ticket = none) : request.Paired pairs request := by
  cases checks : request.check with
  | error error => exact .refused checks checks
  | ok checked =>
    obtain ⟨aim, tokens⟩ := checked
    cases aim with
    | begin asked => exact .passed checks checks (.begin asked)
    | resume id =>
      have carried := ticket_of_named? (TokenRequest.named?_eq_some_iff.mpr ⟨tokens, checks⟩)
      rw [unticketed] at carried
      cases carried

private theorem paired_resume (request : TokenRequest) {pairs : List (String × String)}
    {pair : String × String} (member : pair ∈ pairs) :
    TokenRequest.Paired pairs { request with ticket := some pair.1 }
      { request with ticket := some pair.2 } := by
  obtain ⟨ticket, claimToken, format, permissions, scope⟩ := request
  cases permissions with
  | some asked => exact .refused rfl rfl
  | none =>
    -- The tokens are read in the same way whatever ticket stands beside them.
    let bare : TokenRequest := ⟨none, claimToken, format, none, scope⟩
    let resuming (id : String) (tokens : List ClaimToken) : TokenRequest.Checked := ⟨.resume id, tokens⟩
    have checks : ∀ id, TokenRequest.check { bare with ticket := some id } =
        bare.claimTokens.map (resuming id) := by
      intro id
      change (bare.claimTokens >>= fun tokens => .ok (resuming id tokens)) = _
      cases bare.claimTokens <;> rfl
    cases read : bare.claimTokens with
    | error error =>
      simp only [read] at checks
      exact .refused (checks pair.1) (checks pair.2)
    | ok tokens =>
      simp only [read] at checks
      exact .passed (checks pair.1) (checks pair.2) (.resume member)

/-- The same move with either side of pairs of identifiers. -/
theorem paired (move : Move) (pairs : List (String × String)) :
    (move.requestWith (pairs.map (·.1))).Paired pairs (move.requestWith (pairs.map (·.2))) := by
  have side (project : String × String → String) :
      (move.resumes.bind fun index => (pairs.map project)[index]?) =
        (move.resumes.bind fun index => pairs[index]?).map project := by
    simp only [List.getElem?_map, Option.map_bind]
    rfl
  rw [requestWith_eq move (side _), requestWith_eq move (side _)]
  cases resumed : move.resumes.bind fun index => pairs[index]? with
  | none => exact paired_self pairs rfl
  | some pair =>
    obtain ⟨index, _, found⟩ := Option.bind_eq_some_iff.mp resumed
    exact paired_resume move.request (List.mem_of_getElem? found)

end Move

/-- A server and its clients. -/
structure Session (Client : Type) where
  realm : Realm
  /-- The identifiers that each client was given, the oldest first. -/
  given : Client → List String

namespace Session

variable {Client : Type} [DecidableEq Client]

/-- The start, when no client has been given anything. -/
def new (realm : Realm) : Session Client := ⟨realm, fun _ => []⟩

/-- The turn that a move comes to. -/
def turn (session : Session Client) (client : Client) (move : Move) : Turn :=
  ⟨move.now, move.requestWith (session.given client), session.realm⟩

/-- The session after a move. -/
def after (server : Server) (session : Session Client) (client : Client) (move : Move) :
    Session Client where
  realm := (session.turn client move).left server
  given other :=
    if other = client then
      session.given client ++ ((session.turn client move).handedOut? server).toList
    else session.given other

theorem given_after_self (server : Server) (session : Session Client) (client : Client)
    (move : Move) :
    (session.after server client move).given client =
      session.given client ++ ((session.turn client move).handedOut? server).toList := if_pos rfl

theorem given_after_other (server : Server) (session : Session Client) {client other : Client}
    (differ : other ≠ client) (move : Move) :
    (session.after server client move).given other = session.given other := if_neg differ

/-- The turns that moves of clients come to. -/
def turns (server : Server) (session : Session Client) :
    List (Client × Move) → List (Client × Turn)
  | [] => []
  | (client, move) :: rest =>
    (client, session.turn client move) :: turns server (session.after server client move) rest

/-- Whether a client pushes a text in any of its moves. -/
def Pushed (moves : List (Client × Move)) (client : Client) (text : String) : Prop :=
  ∃ move, (client, move) ∈ moves ∧ move.Pushes text

/-- The sources that are listed for what a client asks for in turns, and for what others ask for. -/
def listingsFor (server : Server) (descriptions : Descriptions) (turns : List (Client × Turn))
    (client : Client) : Listings where
  own source := ∃ turn, (client, turn) ∈ turns ∧
    turn.request.Lists server.strategy descriptions source
  others source := ∃ other turn, other ≠ client ∧ (other, turn) ∈ turns ∧
    turn.request.Lists server.strategy descriptions source

/-- Whether a client finds the same in two sessions, and its tickets in the second one are its own. -/
structure Alongside (concerns : String → Prop) (listings : Listings) (start : Realm)
    (client : Client) (pairs : List (String × String)) (alone among : Session Client) : Prop where
  realms : start.Parallel concerns listings pairs alone.realm among.realm
  given : alone.given client = pairs.map (·.1)
  givenToo : among.given client = pairs.map (·.2)
  others : ∀ other, other ≠ client → ∀ id ∈ among.given other,
    among.realm.Drawn id ∧ ∀ pair ∈ pairs, pair.2 ≠ id

variable {server : Server} {concerns : String → Prop} {listings : Listings} {start : Realm}
  {client other : Client} {pairs : List (String × String)} {alone among : Session Client} {move : Move}

omit [DecidableEq Client] in
private theorem alongside_new (concerns : String → Prop) (listings : Listings) (start : Realm)
    (client : Client) :
    Alongside concerns listings start client [] (new start) (new start) :=
  ⟨.refl concerns listings start, rfl, rfl, nofun⟩

namespace Alongside

variable (plain : server.contracting = none)
  (unmade : ∀ text, concerns text → start.supply.Unmade text)
  (live : start.factories.NoneExpired concerns move.now)
  (alongside : Alongside concerns listings start client pairs alone among)

include plain unmade live alongside

/-- A move of the client itself is answered alike in both sessions. -/
private theorem own_move (concerned : ∀ text, move.Pushes text → concerns text)
    (own : ∀ source,
      (among.turn client move).request.Lists server.strategy start.descriptions source →
      listings.own source) :
    (alone.turn client move).AnsweredAlike server listings (among.turn client move) ∧
      ∃ more, Alongside concerns listings start client more (alone.after server client move)
        (among.after server client move) := by
  have sameNow : (among.turn client move).now = (alone.turn client move).now := rfl
  have paired : (alone.turn client move).request.Paired pairs (among.turn client move).request := by
    rw [turn, turn, alongside.given, alongside.givenToo]
    exact move.paired pairs
  obtain ⟨alike, new, handed, handedToo, realms⟩ := Turn.answered_alike plain unmade live sameNow
    paired (fun source listed => own source (paired.lists listed)) (Move.pushesOnly concerned _)
    alongside.realms
  refine ⟨alike, pairs ++ new, realms, ?_, ?_, fun other differ id member => ?_⟩
  · rw [given_after_self, alongside.given, handed, List.map_append]
  · rw [given_after_self, alongside.givenToo, handedToo, List.map_append]
  · rw [given_after_other server among differ] at member
    obtain ⟨drawn, foreign⟩ := alongside.others other differ id member
    have fresh := Turn.supply_left server (among.turn client move)
    refine ⟨drawn.mono fresh, List.forall_mem_append.mpr ⟨foreign, fun pair added same => ?_⟩⟩
    -- What is handed out now was not drawn when the others were given theirs.
    have listed : pair.2 ∈ ((among.turn client move).handedOut? server).toList :=
      handedToo ▸ List.mem_map_of_mem added
    obtain ⟨number, written, atLeast, _⟩ := Turn.handedOut?_drawn (Option.mem_toList.mp listed)
    exact drawn.ne_next atLeast (same.symm.trans written)

/-- A move of someone else does not disturb the client. -/
private theorem other_move (differ : other ≠ client)
    (others : ∀ source,
      (among.turn other move).request.Lists server.strategy start.descriptions source →
      listings.others source) :
    Alongside concerns listings start client pairs alone (among.after server other move) := by
  have foreign : ∀ id, (among.turn other move).request.named? = some id →
      ∀ pair ∈ pairs, pair.2 ≠ id :=
    fun id named => (alongside.others other differ id (Move.mem_given named)).2
  have realms := Turn.left_parallel plain unmade live foreign others alongside.realms
  refine ⟨realms, alongside.given, ?_, fun someone differs id member => ?_⟩
  · rw [given_after_other server among differ.symm, alongside.givenToo]
  · have fresh := Turn.supply_left server (among.turn other move)
    have known : id ∈ among.given someone →
        (among.after server other move).realm.Drawn id ∧ ∀ pair ∈ pairs, pair.2 ≠ id := by
      intro before
      obtain ⟨drawn, foreign⟩ := alongside.others someone differs id before
      exact ⟨drawn.mono fresh, foreign⟩
    by_cases same : someone = other
    · subst same
      rw [given_after_self] at member
      rcases List.mem_append.mp member with before | handed
      · exact known before
      · obtain ⟨number, rfl, atLeast, below⟩ := Turn.handedOut?_drawn (Option.mem_toList.mp handed)
        refine ⟨⟨number, below, rfl⟩, fun pair among => ?_⟩
        exact (alongside.realms.drawnToo pair among).ne_next atLeast
    · rw [given_after_other server among same] at member
      exact known member

end Alongside

omit [DecidableEq Client] in
private theorem listingsFor_cons {descriptions : Descriptions} {mover : Client} {turn : Turn}
    {rest : List (Client × Turn)}
    (within : (listingsFor server descriptions ((mover, turn) :: rest) client).Within listings) :
    (listingsFor server descriptions rest client).Within listings where
  own := by
    rintro source ⟨turn, member, listed⟩
    exact within.own source ⟨turn, List.mem_cons_of_mem _ member, listed⟩
  others := by
    rintro source ⟨other, turn, differ, member, listed⟩
    exact within.others source ⟨other, turn, differ, List.mem_cons_of_mem _ member, listed⟩

private theorem turns_alongside (plain : server.contracting = none)
    (unmade : ∀ text, concerns text → start.supply.Unmade text) {moves : List (Client × Move)}
    (live : ∀ mover move, (mover, move) ∈ moves → start.factories.NoneExpired concerns move.now)
    (concerned : ∀ text, Pushed moves client text → concerns text)
    (within : (listingsFor server start.descriptions (among.turns server moves) client).Within
      listings)
    (alongside : Alongside concerns listings start client pairs alone among) :
    List.Forall₂
      (fun own ownToo : Client × Turn => own.2.AnsweredAlike server listings ownToo.2)
      (alone.turns server (moves.filter (·.1 = client)))
      ((among.turns server moves).filter (·.1 = client)) := by
  induction moves generalizing pairs alone among with
  | nil => exact .nil
  | cons first rest ih =>
    obtain ⟨mover, move⟩ := first
    have liveNow := live mover move List.mem_cons_self
    have liveLater := fun other next member => live other next (List.mem_cons_of_mem _ member)
    have concernedLater : ∀ text, Pushed rest client text → concerns text := by
      rintro text ⟨next, member, pushed⟩
      exact concerned text ⟨next, List.mem_cons_of_mem _ member, pushed⟩
    rw [turns] at within ⊢
    by_cases same : mover = client
    · subst same
      obtain ⟨alike, more, after⟩ := alongside.own_move plain unmade liveNow
        (fun text pushed => concerned text ⟨move, List.mem_cons_self, pushed⟩)
        (fun source listed => within.own source ⟨_, List.mem_cons_self, listed⟩)
      rw [List.filter_cons_of_pos (by simp), List.filter_cons_of_pos (by simp), turns]
      exact .cons alike (ih liveLater concernedLater (listingsFor_cons within) after)
    · have after := alongside.other_move plain unmade liveNow same
        fun source listed => within.others source ⟨mover, _, same, List.mem_cons_self, listed⟩
      rw [List.filter_cons_of_neg (by simpa), List.filter_cons_of_neg (by simpa)]
      exact ih liveLater concernedLater (listingsFor_cons within) after

/-- What a client of a server without contracts is answered among others is what it would have been
answered alone, up to fresh values and to issuers that others had written down. It takes that what the
client pushes as claim tokens is none of the access tokens still to be made, and none that has expired
by any of the moves. -/
theorem turns_alike (plain : server.contracting = none) {realm : Realm}
    {moves : List (Client × Move)} {client : Client}
    (unmade : ∀ text, Pushed moves client text → realm.supply.Unmade text)
    (live : ∀ mover move, (mover, move) ∈ moves →
      realm.factories.NoneExpired (Pushed moves client) move.now) :
    List.Forall₂
      (fun own ownToo : Client × Turn => own.2.AnsweredAlike server
        (listingsFor server realm.descriptions ((new realm).turns server moves) client) ownToo.2)
      ((new realm).turns server (moves.filter (·.1 = client)))
      (((new realm).turns server moves).filter (·.1 = client)) := by
  exact turns_alongside plain unmade live (fun _ pushed => pushed) (.refl _)
    (alongside_new _ _ realm client)

/-- A client is told the same issuers as alone if no source that is listed for what it asks for is
listed with another server for what others ask for. -/
theorem turns_same_issuers (plain : server.contracting = none) {realm : Realm}
    {moves : List (Client × Move)} {client : Client}
    (unmade : ∀ text, Pushed moves client text → realm.supply.Unmade text)
    (live : ∀ mover move, (mover, move) ∈ moves →
      realm.factories.NoneExpired (Pushed moves client) move.now)
    (unambiguous : (listingsFor server realm.descriptions ((new realm).turns server moves)
      client).Unambiguous) :
    List.Forall₂ (fun own ownToo : Client × Turn => own.2.AnsweredAlike server .none ownToo.2)
      ((new realm).turns server (moves.filter (·.1 = client)))
      (((new realm).turns server moves).filter (·.1 = client)) := by
  have alike := turns_alongside plain unmade live (fun _ pushed => pushed) (.refl _)
    (alongside_new _ _ realm client)
  exact alike.imp fun _ _ same => same.of_unambiguous unambiguous

end Session

/-! ## Two reports at a time

Another client asks for the report before the first one has shown its grant. -/

namespace Report

def moves : List (Bool × Move) :=
  [(true, ⟨⟨0⟩, none, opening.request⟩), (false, ⟨⟨0⟩, none, opening.request⟩),
    (true, ⟨⟨0⟩, some 0, TokenRequest.blank.push ⟨"upstream grant", ClaimFormat.accessToken⟩⟩)]

private theorem pushed_eq {text : String} (pushed : Session.Pushed moves true text) :
    text = "upstream grant" := by
  obtain ⟨move, member, tokens, read, token, among, rfl⟩ := pushed
  simp only [moves, List.mem_cons, List.not_mem_nil, or_false, Prod.mk.injEq, true_and,
    Bool.true_eq_false, false_and, false_or] at member
  rcases member with rfl | rfl <;> cases read
  · cases among
  · rw [List.mem_singleton.mp among]

theorem unmade (text : String) (pushed : Session.Pushed moves true text) :
    realm.supply.Unmade text := by
  rw [pushed_eq pushed]
  refine ⟨fun number _ same => ?_, fun parts split => nomatch split⟩
  have letter : 'u' ∈ Hex.ofNat 64 number := by
    have chars : "upstream grant".toList = Hex.ofNat 64 number := by
      rw [same, Fresh.credential, String.toList_ofList]
    rw [← chars]
    decide
  have digit := Hex.digit?_isSome_of_mem (Hex.toNat?_ofNat 64 number) letter
  cases digit

theorem live (concerns : String → Prop) (now : Instant) :
    realm.factories.NoneExpired concerns now := by
  intro name factory found
  have registered : realm.factories.get? name =
      if name = "tokens" then some (.reference (.empty ReferenceTokens.defaultLifetime)) else none :=
    Dict.get?_insert ..
  rw [registered] at found
  split at found <;> cases found
  exact fun _ _ _ nothing => nomatch nothing

end Report

namespace Session

theorem turns_alike_report :
    List.Forall₂
      (fun own ownToo : Bool × Turn => own.2.AnsweredAlike Report.server
        (listingsFor Report.server Report.descriptions
          ((new Report.realm).turns Report.server Report.moves) true) ownToo.2)
      ((new Report.realm).turns Report.server (Report.moves.filter (·.1 = true)))
      (((new Report.realm).turns Report.server Report.moves).filter (·.1 = true)) :=
  turns_alike rfl Report.unmade fun _ move _ => Report.live _ move.now

end Session

/-! ## Two maps of one name

Two servers know different maps by the same identifier. An atlas is derived from the one, a globe from
the other. -/

namespace Atlas

def descriptions : Descriptions :=
  (Descriptions.empty.describe "atlas" ⟨none, [], [⟨"https://a.example", "map"⟩]⟩).describe "globe"
    ⟨none, [], [⟨"https://b.example", "map"⟩]⟩

def realm : Realm := { Report.realm with descriptions }

/-- The first client asks for the atlas and later asks again what is missing. The other one asks for
the globe in between. -/
def moves : List (Bool × Move) :=
  [(true, ⟨⟨0⟩, none, .forPermissions [.of "atlas" [Scope.read]]⟩),
    (false, ⟨⟨0⟩, none, .forPermissions [.of "globe" [Scope.read]]⟩),
    (true, ⟨⟨0⟩, some 0, .blank⟩)]

/-- The issuers that the client is told in each of its turns. -/
def issuers (turns : List (Bool × Turn)) : List (List String) :=
  turns.map fun own =>
    match own.2.answer Report.server with
    | .error (.refused (.needInfo _ required)) => required.derivations.map (·.issuer)
    | _ => []

end Atlas

namespace Session

/-- The client is sent to the server of the other map if another client has asked for the globe. -/
theorem told_issuer_of_other :
    Atlas.issuers ((new Atlas.realm).turns Report.server (Atlas.moves.filter (·.1 = true))) =
        [["https://a.example"], ["https://a.example"]] ∧
      Atlas.issuers (((new Atlas.realm).turns Report.server Atlas.moves).filter (·.1 = true)) =
        [["https://a.example"], ["https://b.example"]] :=
  ⟨rfl, rfl⟩

end Session

end UmaGrant
