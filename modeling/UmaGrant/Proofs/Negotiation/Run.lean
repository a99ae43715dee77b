import UmaGrant.Proofs.Negotiation.Turn
/-! # Runs

A run is a history of turns of one server that starts from an empty store. Between turns the realm
may change in any way, except that nothing but a turn of the server stores tickets in it. Histories
list the newest turn first.

What holds of every ticket that is opened, and goes on to hold when claims are shown to it, holds of
every ticket that is weighed in a run: of what was asked for when the ticket was opened, and of all
claim sets that were shown to it since.
-/

namespace UmaGrant

/-- Histories of a server, from an empty store on. -/
inductive Run (server : Server) : List Turn → Prop
  | first {turn : Turn} (empty : turn.realm.tickets.entries = .empty) : Run server [turn]
  | next {turn last : Turn} {earlier : List Turn} (run : Run server (last :: earlier))
      (within : turn.realm.tickets.Within (last.left server).tickets) :
      Run server (turn :: last :: earlier)

namespace Turn

/-- The turns of a history that had to do with the ticket under an identifier: the last one that
handed it out, and those before it that had to do with the same ticket. -/
def lineage (server : Server) : Option String → List Turn → List Turn
  | none, _ => []
  | some _, [] => []
  | some id, turn :: earlier =>
    if turn.handedOut? server = some id then
      turn :: lineage server turn.request.named? earlier
    else lineage server (some id) earlier

/-- The turns of a history that had to do with the ticket of the last turn. -/
def thread (server : Server) : List Turn → List Turn
  | [] => []
  | turn :: earlier => turn :: lineage server turn.request.named? earlier

/-- The claim sets that are proven in turns, the newest first. -/
def allShown (server : Server) : List Turn → List Claims
  | [] => []
  | turn :: earlier => (turn.shown server).reverse ++ allShown server earlier

variable {server : Server}

theorem mem_allShown {claims : Claims} {turns : List Turn} :
    claims ∈ allShown server turns ↔ ∃ turn ∈ turns, claims ∈ turn.shown server := by
  induction turns with
  | nil => simp [allShown]
  | cons turn earlier ih => simp [allShown, ih]

end Turn

/-! ## Invariants of tickets -/

/-- A property of tickets, of the descriptions under which they were opened, of what was asked for and
of the claim sets that were shown, the newest first. It holds of tickets that are opened, and showing
claims keeps it. -/
structure Strategy.Keeps (strategy : Strategy)
    (holds : Descriptions → List Permission → List Claims → Ticket → Prop) : Prop where
  opened : ∀ {descriptions issuers asked sourced},
    (strategy.openTicket descriptions issuers asked).outcome = .ok sourced →
    holds descriptions asked [] sourced.ticket
  shown : ∀ {descriptions asked shown ticket}, holds descriptions asked shown ticket → ∀ claims,
    holds descriptions asked (claims :: shown) (strategy.addClaims ticket claims).value

variable {holds : Descriptions → List Permission → List Claims → Ticket → Prop}

theorem Strategy.Keeps.addAll {strategy : Strategy} (keeps : strategy.Keeps holds)
    {descriptions : Descriptions} {asked : List Permission} {shown : List Claims} {ticket : Ticket}
    (holding : holds descriptions asked shown ticket) (more : List Claims) :
    holds descriptions asked (more.reverse ++ shown) (strategy.addAll ticket more) := by
  induction more generalizing shown ticket with
  | nil => exact holding
  | cons claims rest ih =>
    rw [List.reverse_cons, List.append_assoc]
    exact ih (keeps.shown holding claims)

namespace Turn

variable {server : Server} {turn : Turn} {earlier : List Turn} {ticket : Ticket}

/-- Whether a property holds of a ticket by what the turns that had to do with it say: the first of
them asked for the permissions, and all of them together have shown the claims. -/
def Tells (server : Server) (holds : Descriptions → List Permission → List Claims → Ticket → Prop)
    (turns : List Turn) (ticket : Ticket) : Prop :=
  ∃ first asked, turns.getLast? = some first ∧ first.asked? = some asked ∧
    holds first.realm.descriptions asked (allShown server turns) ticket

/-- If the property holds of the stored tickets, it holds of the ticket that is weighed. -/
theorem weighing_tells (keeps : server.strategy.Keeps holds)
    (before : ∀ id stored, turn.realm.tickets.entries.get? id = some stored →
      Tells server holds (lineage server (some id) earlier) stored.ticket)
    {resolution : Resolution} (weighed : (turn.weighing server).outcome = .ok (ticket, resolution)) :
    Tells server holds (thread server (turn :: earlier)) ticket := by
  obtain ⟨⟨aim, tokens⟩, start, checks, obtained, rfl, _⟩ := Server.weigh_ends ⟨weighed, rfl⟩
  have proven : turn.shown server =
      server.verifier.provenClaims turn.now tokens turn.realm.factories := by
    rw [shown, checks]
  rw [← proven]
  cases obtained with
  | @opened asked sourced opening =>
    have named : turn.request.named? = none := by rw [TokenRequest.named?, checks]
    refine ⟨turn, asked, ?_, by rw [asked?, checks], ?_⟩
    · rw [thread, named, lineage]
      rfl
    · rw [thread, named, lineage]
      exact keeps.addAll (keeps.opened opening) (turn.shown server)
  | @taken id stored working found live =>
    have named : turn.request.named? = some id := by rw [TokenRequest.named?, checks]
    obtain ⟨first, asked, last, asking, holding⟩ := before id stored found
    rw [thread, named]
    refine ⟨first, asked, ?_, asking, keeps.addAll holding (turn.shown server)⟩
    cases line : lineage server (some id) earlier with
    | nil =>
      rw [line] at last
      cases last
    | cons other rest =>
      rw [line] at last
      rw [List.getLast?_cons_cons, last]

/-- If the property holds of the stored tickets, a turn leaves only such tickets in the store. -/
theorem left_tells (keeps : server.strategy.Keeps holds)
    (before : ∀ id stored, turn.realm.tickets.entries.get? id = some stored →
      Tells server holds (lineage server (some id) earlier) stored.ticket)
    {id : String} {stored : StoredTicket}
    (present : (turn.left server).tickets.entries.get? id = some stored) :
    Tells server holds (lineage server (some id) (turn :: earlier)) stored.ticket := by
  rcases turn.store_cases server with ⟨silent, left⟩ | ⟨ticket, expiresAt, putsBack⟩
  · rw [left] at present
    rw [lineage, silent, if_neg nofun]
    exact before id stored ((Server.storeWithout_within _).entries id stored present)
  · rw [putsBack.stored, Dict.get?_insert] at present
    rw [lineage, putsBack.handedOut]
    by_cases same : id = turn.freshId server
    · rw [if_pos same] at present
      rw [if_pos (congrArg some same.symm)]
      cases present
      obtain ⟨missing, weighed⟩ := putsBack.weighed
      exact weighing_tells keeps before weighed
    · rw [if_neg same] at present
      rw [if_neg (fun equal => same (Option.some.inj equal).symm)]
      exact before id stored ((Server.storeWithout_within _).entries id stored present)

end Turn

/-- The property holds of every ticket in the store of a run. -/
theorem Run.stored_tells {server : Server} (keeps : server.strategy.Keeps holds) {turn : Turn}
    {earlier : List Turn} (run : Run server (turn :: earlier)) {id : String} {stored : StoredTicket}
    (present : turn.realm.tickets.entries.get? id = some stored) :
    Turn.Tells server holds (Turn.lineage server (some id) earlier) stored.ticket := by
  generalize same : turn :: earlier = history at run
  induction run generalizing turn earlier id stored with
  | first empty =>
    cases same
    rw [empty] at present
    cases present
  | next run within ih =>
    cases same
    exact Turn.left_tells keeps (fun _ _ found => ih found rfl) (within.entries id stored present)

/-- The property holds of every ticket that is weighed in a run. -/
theorem Run.weighing_tells {server : Server} (keeps : server.strategy.Keeps holds) {turn : Turn}
    {earlier : List Turn} (run : Run server (turn :: earlier)) {ticket : Ticket}
    {resolution : Resolution} (weighed : (turn.weighing server).outcome = .ok (ticket, resolution)) :
    Turn.Tells server holds (Turn.thread server (turn :: earlier)) ticket :=
  Turn.weighing_tells keeps (fun _ _ present => run.stored_tells keeps present) weighed

/-! ## A report with one source

The second turn shows a grant on the source and gets the token that the first one was refused. -/

namespace Report

def codec : IdCodec := ⟨⟨.replicate 32 7, rfl⟩⟩

def server : Server where
  strategy := ⟨⟨.judgement, .everyone⟩, some codec⟩
  verifier := .known
    [("upstream grant", .ok (Dict.empty.insert ClaimType.access
      (Permission.listToJson [.of "upstream" [Scope.derivationRead]])))]
    (.verification "Unknown token")
  factory := "tokens"
  contracting := none
  putOutage := none
  takeOutage := none

def descriptions : Descriptions :=
  Descriptions.empty.describe "report" ⟨none, [], [⟨"https://as.example", "upstream"⟩]⟩

def realm : Realm where
  tickets := .empty Tickets.defaultLifetime
  issuers := .empty
  contracts := .empty
  descriptions := descriptions
  factories := Dict.empty.insert "tokens" (.reference (.empty ReferenceTokens.defaultLifetime))
  supply := ⟨0⟩

def opening : Turn := ⟨⟨0⟩, .forPermissions [.of "report" [Scope.read]], realm⟩

def proving : Turn :=
  ⟨⟨0⟩, (TokenRequest.forTicket (Fresh.identifier 0)).push ⟨"upstream grant", ClaimFormat.accessToken⟩,
    opening.left server⟩

def payload : AccessToken := ⟨[.of "report" [Scope.read]], none⟩

theorem run : Run server [proving, opening] := .next (.first rfl) (.refl _)

theorem issues : proving.Issues server payload := ⟨rfl, _, rfl⟩

theorem descriptions_fixed : ∀ past ∈ [proving, opening], past.realm.descriptions = descriptions := by
  intro past member
  rcases List.mem_cons.mp member with rfl | member
  · rfl
  · obtain rfl := List.mem_singleton.mp member
    rfl

end Report

end UmaGrant
