import UmaGrant.Proofs.Negotiation.Answers
import UmaGrant.Proofs.Negotiation.Run
import UmaGrant.Proofs.Supply
/-! # Every ticket is good for one turn

An identifier is handed out once, and the ticket under it is taken once at most. What is in the store
was handed out and has not been taken since. One turn keeps this account, and so it holds of every
run whose identifiers are fresh.
-/

namespace UmaGrant

namespace Turn

variable {server : Server} {turn : Turn} {earlier : List Turn} {id : String}

/-- Whether a turn hands its ticket out under an identifier. -/
def handsOut (server : Server) (id : String) (turn : Turn) : Bool := turn.handedOut? server = some id

/-- Whether a turn gets the ticket under an identifier out of the store. -/
def takes (id : String) (turn : Turn) : Bool :=
  turn.request.named? = some id && (turn.realm.tickets.take turn.now id).1.isSome

theorem handsOut_iff : turn.handsOut server id = true ↔ turn.handedOut? server = some id :=
  decide_eq_true_iff

theorem takes_iff :
    turn.takes id = true ↔ turn.request.named? = some id ∧
      ∃ stored, turn.realm.tickets.entries.get? id = some stored ∧
        Tickets.isLive turn.now stored = true := by
  rw [takes, Bool.and_eq_true, decide_eq_true_iff, Option.isSome_iff_exists]
  simp only [Tickets.take_eq_some_iff]
  constructor
  · rintro ⟨named, ticket, stored, found, live, _⟩
    exact ⟨named, stored, found, live⟩
  · rintro ⟨named, stored, found, live⟩
    exact ⟨named, stored.ticket, stored, found, live, rfl⟩

/-! ## One turn -/

/-- A request that does not pass its check is refused, and that is all. -/
theorem of_check_error {error : GrantError} (refused : turn.request.check = .error error) :
    turn.answer server = .error (.refused error) ∧ turn.left server = turn.realm := by
  have ended : turn.weighing server = ⟨.error (.refused error), turn.realm, []⟩ :=
    Server.run_weigh_error refused
  have halted : (turn.weighing server).outcome = .error (.refused error) := by rw [ended]
  obtain ⟨answered, left⟩ := of_weighing_error halted
  exact ⟨answered, by rw [left, ended]⟩

/-- A turn that names a ticket without getting it is told that the ticket is not valid. -/
theorem answer_of_not_takes (taking : server.takeOutage = none)
    (named : turn.request.named? = some id) (missed : turn.takes id = false) :
    turn.answer server = .error (.refused Server.invalidTicket) := by
  have nothing : (turn.realm.tickets.take turn.now id).1 = none := by
    rw [takes, named, decide_eq_true rfl, Bool.true_and] at missed
    exact Option.not_isSome_iff_eq_none.mp (by simp [missed])
  obtain ⟨tokens, checks⟩ := TokenRequest.named?_eq_some_iff.mp named
  have ended : (turn.weighing server).outcome = .error (.refused Server.invalidTicket) := by
    rw [weighing, Server.run_weigh checks, Server.obtainTicket, Round.run_bind,
      Server.run_takeTicket taking, nothing]
  exact (of_weighing_error ended).1

/-- Weighing takes what is named out of the store and nothing else. -/
private theorem get?_storeWithout (taking : server.takeOutage = none) {stored : StoredTicket} :
    (server.storeWithout turn.now turn.request turn.realm.tickets).entries.get? id = some stored ↔
      turn.request.named? ≠ some id ∧ turn.realm.tickets.entries.get? id = some stored := by
  rw [Server.storeWithout, taking]
  cases turn.request.named? with
  | none => exact (and_iff_right (Option.some_ne_none id).symm).symm
  | some other =>
    have differ : id ≠ other ↔ some other ≠ some id :=
      not_congr ⟨fun same => congrArg some same.symm, fun same => (Option.some.inj same).symm⟩
    rw [← differ]
    exact Dict.get?_erase_eq_some_iff

/-- What is in the store after a turn was there before and is not what the turn names, or is what the
turn hands out. -/
theorem stored_cases (taking : server.takeOutage = none) {stored : StoredTicket}
    (found : (turn.left server).tickets.entries.get? id = some stored) :
    (turn.request.named? ≠ some id ∧ turn.realm.tickets.entries.get? id = some stored) ∨
      (turn.handedOut? server = some id ∧
        turn.now.after? turn.realm.tickets.lifetime = some stored.expiresAt) := by
  rcases turn.store_cases server with ⟨_, left⟩ | ⟨ticket, expiresAt, putsBack⟩
  · rw [left] at found
    exact .inl ((get?_storeWithout taking).mp found)
  · rw [putsBack.stored, Dict.get?_insert] at found
    split at found
    case isTrue same =>
      cases found
      exact .inr ⟨same ▸ putsBack.handedOut, putsBack.expiry⟩
    case isFalse => exact .inl ((get?_storeWithout taking).mp found)

/-- Of the store a turn takes away what it names, and it adds what it hands out. -/
theorem contains_left (taking : server.takeOutage = none) :
    (turn.left server).tickets.entries.contains id = true ↔
      (turn.realm.tickets.entries.contains id = true ∧ turn.request.named? ≠ some id) ∨
        turn.handedOut? server = some id := by
  constructor
  · intro present
    obtain ⟨stored, found⟩ := Dict.contains_iff.mp present
    rcases stored_cases taking found with ⟨unnamed, before⟩ | ⟨handed, _⟩
    · exact .inl ⟨Dict.contains_iff.mpr ⟨stored, before⟩, unnamed⟩
    · exact .inr handed
  · rintro (⟨present, unnamed⟩ | handed)
    · obtain ⟨stored, before⟩ := Dict.contains_iff.mp present
      have kept := (get?_storeWithout taking).mpr ⟨unnamed, before⟩
      rcases turn.store_cases server with ⟨_, left⟩ | ⟨ticket, expiresAt, putsBack⟩
      · rw [left]
        exact Dict.contains_iff.mpr ⟨stored, kept⟩
      · rw [putsBack.stored, Dict.contains_insert]
        exact .inr (Dict.contains_iff.mpr ⟨stored, kept⟩)
    · rcases turn.store_cases server with ⟨silent, _⟩ | ⟨ticket, expiresAt, putsBack⟩
      · rw [silent] at handed
        cases handed
      · rw [putsBack.handedOut] at handed
        cases handed
        rw [putsBack.stored, Dict.contains_insert]
        exact .inl rfl

end Turn

/-! ## The account of a run -/

open Turn

/-- What holds of a realm after turns of a server, if their identifiers are fresh. -/
structure Ledger (server : Server) (realm : Realm) (turns : List Turn) : Prop where
  /-- What was handed out is no longer fresh. -/
  drawn : ∀ past ∈ turns, ∀ id, past.handedOut? server = some id →
    ∃ number < realm.supply.next, id = Fresh.identifier number
  handedOutOnce : ∀ id, turns.countP (handsOut server id) ≤ 1
  /-- What was taken had been handed out. -/
  takenFrom : ∀ past ∈ turns, ∀ id, past.takes id = true →
    ∃ giver ∈ turns, giver.handedOut? server = some id
  takenOnce : ∀ id, turns.countP (takes id) ≤ 1
  /-- What is stored was handed out with this end of its life. -/
  storedFrom : ∀ id stored, realm.tickets.entries.get? id = some stored →
    ∃ giver ∈ turns, giver.handedOut? server = some id ∧
      giver.now.after? giver.realm.tickets.lifetime = some stored.expiresAt
  /-- What is stored has not been taken. -/
  storedUntaken : ∀ id stored, realm.tickets.entries.get? id = some stored →
    ∀ past ∈ turns, past.takes id = false

namespace Ledger

variable {server : Server} {turn : Turn} {earlier turns : List Turn} {realm later : Realm}

theorem empty (nothing : realm.tickets.entries = .empty) : Ledger server realm [] where
  drawn _ member := nomatch member
  handedOutOnce _ := Nat.zero_le 1
  takenFrom _ member := nomatch member
  takenOnce _ := Nat.zero_le 1
  storedFrom id stored found := by
    rw [nothing] at found
    cases found
  storedUntaken _ _ _ _ member := nomatch member

/-- Between turns tickets may get lost and numbers may be drawn. -/
theorem mono (ledger : Ledger server realm turns) (within : later.tickets.Within realm.tickets)
    (fresh : realm.supply.next ≤ later.supply.next) : Ledger server later turns where
  drawn past member id handed := by
    obtain ⟨number, below, same⟩ := ledger.drawn past member id handed
    exact ⟨number, Nat.lt_of_lt_of_le below fresh, same⟩
  handedOutOnce := ledger.handedOutOnce
  takenFrom := ledger.takenFrom
  takenOnce := ledger.takenOnce
  storedFrom id stored found := ledger.storedFrom id stored (within.entries id stored found)
  storedUntaken id stored found := ledger.storedUntaken id stored (within.entries id stored found)

variable (ledger : Ledger server turn.realm earlier)

include ledger

/-- What a turn hands out was not handed out before. -/
private theorem handedOut_new {id : String} (handed : turn.handedOut? server = some id) {past : Turn}
    (member : past ∈ earlier) : past.handedOut? server ≠ some id := by
  intro before
  obtain ⟨number, rfl, atLeast, _⟩ := turn.handedOut?_drawn handed
  obtain ⟨other, below, same⟩ := ledger.drawn past member _ before
  have equal : number = other := Fresh.identifier_injective same
  omega

/-- What is taken in or before a turn had been handed out before it. -/
private theorem taken_before {past : Turn} (member : past ∈ turn :: earlier) {id : String}
    (taken : past.takes id = true) : ∃ giver ∈ earlier, giver.handedOut? server = some id := by
  rcases List.mem_cons.mp member with rfl | member
  · obtain ⟨_, stored, found, _⟩ := takes_iff.mp taken
    obtain ⟨giver, among, handed, _⟩ := ledger.storedFrom id stored found
    exact ⟨giver, among, handed⟩
  · exact ledger.takenFrom past member id taken

/-- A turn keeps the account. -/
theorem step (taking : server.takeOutage = none) :
    Ledger server (turn.left server) (turn :: earlier) where
  drawn past member id handed := by
    rcases List.mem_cons.mp member with rfl | member
    · obtain ⟨number, same, _, below⟩ := past.handedOut?_drawn handed
      exact ⟨number, below, same⟩
    · obtain ⟨number, below, same⟩ := ledger.drawn past member id handed
      exact ⟨number, Nat.lt_of_lt_of_le below (turn.supply_left server), same⟩
  handedOutOnce id := by
    rw [List.countP_cons]
    split
    case isTrue hands =>
      have never : earlier.countP (handsOut server id) = 0 := by
        rw [List.countP_eq_zero]
        exact fun past member handed => ledger.handedOut_new (handsOut_iff.mp hands) member
          (handsOut_iff.mp handed)
      omega
    case isFalse => exact ledger.handedOutOnce id
  takenFrom past member id taken := by
    obtain ⟨giver, among, handed⟩ := ledger.taken_before member taken
    exact ⟨giver, List.mem_cons_of_mem turn among, handed⟩
  takenOnce id := by
    rw [List.countP_cons]
    split
    case isTrue taken =>
      obtain ⟨_, stored, found, _⟩ := takes_iff.mp taken
      have never : earlier.countP (takes id) = 0 := by
        rw [List.countP_eq_zero]
        intro past member before
        rw [ledger.storedUntaken id stored found past member] at before
        cases before
      omega
    case isFalse => exact ledger.takenOnce id
  storedFrom id stored found := by
    rcases stored_cases taking found with ⟨_, before⟩ | ⟨handed, expiry⟩
    · obtain ⟨giver, among, given⟩ := ledger.storedFrom id stored before
      exact ⟨giver, List.mem_cons_of_mem turn among, given⟩
    · exact ⟨turn, List.mem_cons_self, handed, expiry⟩
  storedUntaken id stored found past member := by
    rw [← Bool.not_eq_true]
    intro taken
    rcases stored_cases taking found with ⟨unnamed, before⟩ | ⟨handed, _⟩
    · rcases List.mem_cons.mp member with rfl | member
      · exact unnamed (takes_iff.mp taken).1
      · rw [ledger.storedUntaken id stored before past member] at taken
        cases taken
    · -- What is handed out only now was not handed out before, so nobody can have taken it.
      obtain ⟨giver, among, before⟩ := ledger.taken_before member taken
      exact ledger.handedOut_new handed among before

end Ledger

namespace Turn

/-- Whether no turn draws a number again that an earlier one has drawn. -/
def DrawFresh (server : Server) (turns : List Turn) : Prop :=
  turns.Pairwise fun turn past => (past.left server).supply.next ≤ turn.realm.supply.next

/-- Whether the tickets that turns handed out under an identifier are worthless by an instant. -/
def Worthless (server : Server) (turns : List Turn) (id : String) (now : Instant) : Prop :=
  ∀ past ∈ turns, past.handedOut? server = some id → ∀ expiresAt,
    past.now.after? past.realm.tickets.lifetime = some expiresAt → expiresAt.nanos ≤ now.nanos

/-- The rules of tickets, as the last turn of a history leaves them. -/
structure TicketRules (server : Server) (turn : Turn) (earlier : List Turn) : Prop where
  /-- Whatever is stored was handed out by exactly one turn. -/
  handedOutOnce : ∀ id, (turn.left server).tickets.entries.contains id = true →
    (turn :: earlier).countP (handsOut server id) = 1
  /-- At most one turn gets the ticket under an identifier out of the store. -/
  takenOnce : ∀ id, (turn :: earlier).countP (takes id) ≤ 1
  /-- A turn that does not get the ticket that it names is told that it is not valid. -/
  missed : ∀ id, turn.request.named? = some id → turn.takes id = false →
    turn.answer server = .error (.refused Server.invalidTicket)
  /-- So is a turn that names what was never handed out, or what is worthless by now. -/
  worthless : ∀ id, turn.request.named? = some id → Worthless server earlier id turn.now →
    turn.answer server = .error (.refused Server.invalidTicket)
  /-- A request that does not pass its check changes nothing. -/
  rejected : ∀ error, turn.request.check = .error error →
    turn.answer server = .error (.refused error) ∧ turn.left server = turn.realm
  /-- Of the store a turn takes away what it names, and it adds what it hands out. -/
  stored : ∀ id, (turn.left server).tickets.entries.contains id = true ↔
    (turn.realm.tickets.entries.contains id = true ∧ turn.request.named? ≠ some id) ∨
      turn.handedOut? server = some id
  /-- What a turn hands out is the identifier in its answer that more claims are needed. -/
  told : server.IsConclusive → turn.realm.descriptions.IsConclusive → ∀ id,
    turn.handedOut? server = some id ↔
      ∃ required, turn.answer server = .error (.refused (.needInfo id required))

end Turn

namespace Run

variable {server : Server} {turn : Turn} {earlier : List Turn}

/-- The account holds of the realm that the last turn of a run finds. -/
theorem ledger (taking : server.takeOutage = none) (run : Run server (turn :: earlier))
    (fresh : Turn.DrawFresh server (turn :: earlier)) : Ledger server turn.realm earlier := by
  generalize same : turn :: earlier = history at run fresh
  induction run generalizing turn earlier with
  | first nothing =>
    cases same
    exact .empty nothing
  | next run within ih =>
    cases same
    obtain ⟨above, freshBefore⟩ := List.pairwise_cons.mp fresh
    have before := ih rfl freshBefore
    -- The next turn finds what the last one has left, less some tickets and some numbers.
    exact (before.step taking).mono within (above _ List.mem_cons_self)

/-- In a run with fresh identifiers every ticket is good for one turn, and the store holds the tickets
that have been handed out and not been named since. -/
theorem ticketRules (taking : server.takeOutage = none) (run : Run server (turn :: earlier))
    (fresh : Turn.DrawFresh server (turn :: earlier)) : turn.TicketRules server earlier := by
  have before := run.ledger taking fresh
  have after := before.step taking
  have missed : ∀ id, turn.request.named? = some id → turn.takes id = false →
      turn.answer server = .error (.refused Server.invalidTicket) :=
    fun id named => Turn.answer_of_not_takes taking named
  refine ⟨fun id present => ?_, after.takenOnce, missed, fun id named worthless => ?_,
    fun error => Turn.of_check_error, fun id => Turn.contains_left taking,
    fun conclusive describing id => Turn.handedOut?_eq_some_iff_answer conclusive describing⟩
  · obtain ⟨stored, found⟩ := Dict.contains_iff.mp present
    obtain ⟨giver, among, handed, _⟩ := after.storedFrom id stored found
    have some : 0 < (turn :: earlier).countP (Turn.handsOut server id) :=
      List.countP_pos_iff.mpr ⟨giver, among, Turn.handsOut_iff.mpr handed⟩
    have once := after.handedOutOnce id
    omega
  · refine missed id named (Bool.not_eq_true _ ▸ fun taken => ?_)
    obtain ⟨_, stored, found, live⟩ := Turn.takes_iff.mp taken
    obtain ⟨giver, among, handed, expiry⟩ := before.storedFrom id stored found
    have late := worthless giver among handed stored.expiresAt expiry
    have early : turn.now.nanos < stored.expiresAt.nanos := of_decide_eq_true live
    omega

theorem ticketRules_report : Report.proving.TicketRules Report.server [Report.opening] :=
  ticketRules rfl Report.run
    (List.pairwise_cons.mpr ⟨fun _ member => List.mem_singleton.mp member ▸ Nat.le_refl _,
      List.pairwise_singleton _ _⟩)

end Run

end UmaGrant
