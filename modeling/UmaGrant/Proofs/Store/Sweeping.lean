import UmaGrant.Proofs.Store.Lapse
import UmaGrant.Proofs.Store.Tickets
import UmaGrant.Proofs.Token.TableUse
/-! # Sweeping goes unseen

A store of tickets and a table of reference tokens both keep entries that expire. Three things compare an
expiry with the clock: asking for an entry, dropping it when it is shown too late, and sweeping. They agree
about the instant at which an entry expires, so what is found depends on what was stored and on the clock,
and never on whether or when the store was swept.
-/

namespace UmaGrant

open EntryEvent (Stands)

/-! ## Tickets -/

/-- What may be done with a store of tickets. -/
inductive TicketUse where
  | put (now : Instant) (id : String) (ticket : Ticket)
  | take (now : Instant) (id : String)
  | sweep (now : Instant)

namespace TicketUse

/-- When a store is used. -/
def now : TicketUse → Instant
  | put now _ _ | take now _ | sweep now => now

def isSweep : TicketUse → Bool
  | put _ _ _ | take _ _ => false
  | sweep _ => true

/-- What a use means for the ticket under an identifier. A ticket whose expiry has no date is not
stored. -/
def event (lifetime : Lifetime) (id : String) : TicketUse → EntryEvent StoredTicket
  | put now other ticket =>
    match now.after? lifetime with
    | some expiresAt => if other = id then .enter ⟨ticket, expiresAt⟩ else .spare
    | none => .spare
  | take _ other => if other = id then .remove else .spare
  | sweep now => .inspect now

variable {lifetime : Lifetime} {id : String} {use : TicketUse} {later : Instant}

/-- An entry is looked over at the time of the use. -/
theorem now_of_inspect (looked : use.event lifetime id = .inspect later) : later = use.now := by
  cases use with
  | put now other ticket =>
    rw [event] at looked
    split at looked
    · split at looked <;> cases looked
    · cases looked
  | take now other =>
    rw [event] at looked
    split at looked <;> cases looked
  | sweep now =>
    cases looked
    rfl

theorem isPassing_of_sweep (use : TicketUse) (sweeps : (!use.isSweep) = false) :
    (use.event lifetime id).IsPassing := by
  cases use with
  | put | take => cases sweeps
  | sweep now => trivial

end TicketUse

namespace Tickets

variable {tickets : Tickets} {lifetime : Lifetime} {id : String} {now : Instant}
  {uses : List TicketUse} {ticket : Ticket}

/-- What a store is once it was used. A store that cannot keep a ticket is left as it is. -/
def use (tickets : Tickets) : TicketUse → Tickets
  | .put now id ticket => (tickets.put? now id ticket).getD tickets
  | .take now id => (tickets.take now id).2
  | .sweep now => (tickets.sweep now).2

/-- What a store is after uses in turn. -/
def after (tickets : Tickets) (uses : List TicketUse) : Tickets := uses.foldl use tickets

/-- What a use takes out of a store, if it is a take. -/
def taking (tickets : Tickets) : TicketUse → List (Option Ticket)
  | .take now id => [(tickets.take now id).1]
  | .put _ _ _ | .sweep _ => []

/-- What the takes among uses in turn give. -/
def takings : Tickets → List TicketUse → List (Option Ticket) := answers use taking

theorem use_put (tickets : Tickets) (now : Instant) (id : String) (ticket : Ticket) :
    tickets.use (.put now id ticket) =
      match now.after? tickets.lifetime with
      | some expiresAt => { tickets with entries := tickets.entries.insert id ⟨ticket, expiresAt⟩ }
      | none => tickets := by
  rw [use, put?]
  cases now.after? tickets.lifetime <;> rfl

/-- Whether the tickets of a store last so long and lie in order. -/
structure IsKept (lifetime : Lifetime) (tickets : Tickets) : Prop where
  lasting : tickets.lifetime = lifetime
  ordered : tickets.entries.Ordered

theorem isKept_empty (lifetime : Lifetime) : (empty lifetime).IsKept lifetime :=
  ⟨rfl, Dict.ordered_empty⟩

/-- A use does to each entry what it means for it. -/
theorem IsKept.use (kept : tickets.IsKept lifetime) (id : String) (use : TicketUse) :
    (tickets.use use).IsKept lifetime ∧ (tickets.use use).entries.get? id =
      (use.event lifetime id).apply StoredTicket.expiresAt (tickets.entries.get? id) := by
  obtain ⟨rfl, ordered⟩ := kept
  cases use with
  | put now other ticket =>
    rw [use_put, TicketUse.event]
    cases now.after? tickets.lifetime with
    | none => exact ⟨⟨rfl, ordered⟩, rfl⟩
    | some expiresAt =>
      refine ⟨⟨rfl, ordered.insert _ _⟩, ?_⟩
      by_cases same : other = id
      · simp [same, EntryEvent.apply]
      · simp [same, Dict.get?_insert_other _ (Ne.symm same), EntryEvent.apply]
  | take now other =>
    refine ⟨⟨rfl, ordered.erase other⟩, ?_⟩
    change (tickets.entries.erase other).get? id = _
    by_cases same : other = id
    · simp [TicketUse.event, same, EntryEvent.apply]
    · simp [TicketUse.event, same, EntryEvent.apply, Dict.get?_erase_other _ (Ne.symm same)]
  | sweep now => exact ⟨⟨rfl, ordered.filter _⟩, ordered.get?_filter _ id⟩

theorem IsKept.after (kept : tickets.IsKept lifetime) (id : String) (uses : List TicketUse) :
    (tickets.after uses).IsKept lifetime ∧ (tickets.after uses).entries.get? id =
      EntryEvent.fold StoredTicket.expiresAt (TicketUse.event lifetime id)
        (tickets.entries.get? id) uses :=
  EntryEvent.get_foldl (fun tickets : Tickets => tickets.entries.get? id)
    (fun _ kept use => kept.use id use) uses kept

private theorem inspected (past : ∀ use ∈ uses, use.now.nanos ≤ now.nanos) :
    ∀ use ∈ uses, ∀ instant, use.event lifetime id = .inspect instant → instant.nanos ≤ now.nanos :=
  fun use member _ looked => TicketUse.now_of_inspect looked ▸ past use member

/-- What a take gives is the ticket that the uses before it have left, if it is still good. -/
theorem take_after (lifetime : Lifetime) (uses : List TicketUse) (now : Instant) (id : String) :
    (((empty lifetime).after uses).take now id).1 =
      ((EntryEvent.fold StoredTicket.expiresAt (TicketUse.event lifetime id) none uses).filter
        (isLive now)).map (·.ticket) := by
  rw [take, ((isKept_empty lifetime).after id uses).2]
  rfl

/-- A take gives the ticket that stands, as long as it is good. -/
theorem take_after_eq_some_iff (past : ∀ use ∈ uses, use.now.nanos ≤ now.nanos) :
    (((empty lifetime).after uses).take now id).1 = some ticket ↔
      ∃ expiresAt, Stands (TicketUse.event lifetime id) uses ⟨ticket, expiresAt⟩ ∧
        now.nanos < expiresAt.nanos := by
  have found : ∀ stored, _ ↔ Stands (TicketUse.event lifetime id) uses stored ∧ isLive now stored = true :=
    fun stored => EntryEvent.filter_fold_eq_some_iff (inspected past)
  rw [take_after, Option.map_eq_some_iff]
  constructor
  · rintro ⟨⟨_, expiresAt⟩, present, rfl⟩
    obtain ⟨stands, live⟩ := (found _).mp present
    exact ⟨expiresAt, stands, of_decide_eq_true live⟩
  · rintro ⟨expiresAt, stands, early⟩
    exact ⟨⟨ticket, expiresAt⟩, (found _).mpr ⟨stands, decide_eq_true early⟩, rfl⟩

/-- What takes give does not depend on sweeps. -/
theorem takings_filter (onward : Onward TicketUse.now uses) :
    (empty lifetime).takings (uses.filter (!·.isSweep)) = (empty lifetime).takings uses := by
  refine answers_filter (fun _ use dropped => ?_) fun before use rest split => ?_
  · cases use with
    | put | take => cases dropped
    | sweep now => rfl
  · subst split
    cases use with
    | put | sweep => rfl
    | take now id =>
      refine congrArg ([·]) ((take_after ..).trans (Eq.trans ?_ (take_after ..).symm))
      exact congrArg (Option.map _) (EntryEvent.filter_fold_filter TicketUse.isPassing_of_sweep
        (inspected onward.before.2))

/-- Whether a sweep drops only tickets that are of no use any more, and says how many. -/
structure SweepsExactly (lifetime : Lifetime) (tickets : Tickets) (now : Instant) : Prop where
  drops : tickets.entries.Drops (tickets.sweep now).2.entries (tickets.sweep now).1
  /-- Even without the sweep no later take would have given what is dropped, unless a ticket had been put
  there again. -/
  useless : ∀ id, tickets.entries.contains id = true →
    (tickets.sweep now).2.entries.contains id = false →
    ∀ more later, now.nanos ≤ later.nanos →
      (∀ use ∈ more, ∀ entry, use.event lifetime id ≠ .enter entry) →
      ((tickets.after more).take later id).1 = none

theorem IsKept.sweepsExactly (kept : tickets.IsKept lifetime) (now : Instant) :
    tickets.SweepsExactly lifetime now where
  drops := kept.ordered.filter_drops fun _ stored => isLive now stored
  useless id _ dropped more later onward unmade := by
    have expired : (tickets.entries.get? id).filter (isLive now) = none := by
      rw [← kept.ordered.get?_filter fun _ stored => isLive now stored]
      exact Option.not_isSome_iff_eq_none.mp (Bool.eq_false_iff.mp dropped)
    have gone := EntryEvent.filter_fold_eq_none unmade onward expired
    rw [← (kept.after id more).2] at gone
    exact Option.map_eq_none_iff.mpr gone

end Tickets

/-! ## Reference tokens -/

namespace TableUse

def isSweep : TableUse → Bool
  | issue _ _ _ | redeem _ _ => false
  | sweep _ => true

/-- What a use means for the entry of a credential. A token whose expiry has no date is not issued. To
redeem a token is to look its entry over. -/
def event (lifetime : Lifetime) (credential : String) : TableUse → EntryEvent StoredToken
  | issue now supply payload =>
    match now.after? lifetime with
    | some expiresAt =>
      if Fresh.credential supply.next = credential then .enter ⟨payload, expiresAt⟩ else .spare
    | none => .spare
  | redeem now other => if other = credential then .inspect now else .spare
  | sweep now => .inspect now

variable {lifetime : Lifetime} {credential : String} {use : TableUse} {later : Instant}

/-- An entry is looked over at the time of the use. -/
theorem now_of_inspect (looked : use.event lifetime credential = .inspect later) : later = use.now := by
  cases use with
  | issue now supply payload =>
    rw [event] at looked
    split at looked
    · split at looked <;> cases looked
    · cases looked
  | redeem now other =>
    rw [event] at looked
    split at looked
    · cases looked
      rfl
    · cases looked
  | sweep now =>
    cases looked
    rfl

theorem isPassing_of_sweep (use : TableUse) (sweeps : (!use.isSweep) = false) :
    (use.event lifetime credential).IsPassing := by
  cases use with
  | issue | redeem => cases sweeps
  | sweep now => trivial

end TableUse

namespace ReferenceTokens

variable {table : ReferenceTokens} {lifetime : Lifetime} {credential : String} {now : Instant}
  {uses : List TableUse} {payload : AccessToken}

/-- What a use makes known of the payload of a token, if it redeems one. -/
def redeeming (table : ReferenceTokens) : TableUse → List (Option AccessToken)
  | .redeem now token => [(table.redeem now token).1.toOption]
  | .issue _ _ _ | .sweep _ => []

/-- What the tokens that are redeemed among uses in turn give. -/
def redeemings : ReferenceTokens → List TableUse → List (Option AccessToken) := answers use redeeming

/-- Whether the tokens of a table last so long and lie in order. -/
structure IsKept (lifetime : Lifetime) (table : ReferenceTokens) : Prop where
  lasting : table.lifetime = lifetime
  ordered : table.entries.Ordered

theorem isKept_empty (lifetime : Lifetime) : (empty lifetime).IsKept lifetime :=
  ⟨rfl, Dict.ordered_empty⟩

/-- A token is redeemed for its payload while it is good, and it is not valid otherwise. -/
theorem redeem_cases (table : ReferenceTokens) (now : Instant) (token : String) :
    (table.redeem now token).1.toOption =
        ((table.entries.get? token).filter (isLive now)).map (·.payload) ∧
      ∀ error, (table.redeem now token).1 = .error error → ∃ message, error = .invalidToken message := by
  rw [redeem]
  cases table.entries.get? token with
  | none => simp [Except.toOption]
  | some stored => cases lasts : isLive now stored <;> simp [lasts, Except.toOption, Option.filter_some]

/-- To redeem a token is to drop its entry if that has expired. -/
theorem get?_redeem (table : ReferenceTokens) (now : Instant) (token credential : String) :
    (table.redeem now token).2.entries.get? credential =
      if token = credential then (table.entries.get? credential).filter (isLive now)
      else table.entries.get? credential := by
  rw [redeem]
  by_cases same : token = credential
  · subst same
    rw [if_pos rfl]
    cases found : table.entries.get? token with
    | none => exact found
    | some stored => cases lasts : isLive now stored <;> simp [lasts, found, Option.filter_some]
  · rw [if_neg same]
    cases table.entries.get? token with
    | none => rfl
    | some stored =>
      cases lasts : isLive now stored <;> simp [lasts, Dict.get?_erase_other _ (Ne.symm same)]

/-- A use does to each entry what it means for it. -/
theorem IsKept.use (kept : table.IsKept lifetime) (credential : String) (use : TableUse) :
    (table.use use).IsKept lifetime ∧ (table.use use).entries.get? credential =
      (use.event lifetime credential).apply StoredToken.expiresAt
        (table.entries.get? credential) := by
  obtain ⟨rfl, ordered⟩ := kept
  refine ⟨⟨table.use_lifetime use, ordered_use ordered use⟩, ?_⟩
  cases use with
  | issue now supply payload =>
    rw [use_issue, TableUse.event]
    cases now.after? table.lifetime with
    | none => rfl
    | some expiresAt =>
      by_cases same : Fresh.credential supply.next = credential
      · simp [same, EntryEvent.apply]
      · simp [same, Dict.get?_insert_other _ (Ne.symm same), EntryEvent.apply]
  | redeem now token =>
    change (table.redeem now token).2.entries.get? credential = _
    rw [get?_redeem, TableUse.event]
    by_cases same : token = credential
    · rw [if_pos same, if_pos same]
      rfl
    · rw [if_neg same, if_neg same]
      rfl
  | sweep now => exact ordered.get?_filter _ credential

theorem IsKept.after (kept : table.IsKept lifetime) (credential : String) (uses : List TableUse) :
    (table.after uses).IsKept lifetime ∧ (table.after uses).entries.get? credential =
      EntryEvent.fold StoredToken.expiresAt (TableUse.event lifetime credential)
        (table.entries.get? credential) uses :=
  EntryEvent.get_foldl (fun table : ReferenceTokens => table.entries.get? credential)
    (fun _ kept use => kept.use credential use) uses kept

private theorem inspected (past : ∀ use ∈ uses, use.now.nanos ≤ now.nanos) :
    ∀ use ∈ uses, ∀ instant, use.event lifetime credential = .inspect instant →
      instant.nanos ≤ now.nanos :=
  fun use member _ looked => TableUse.now_of_inspect looked ▸ past use member

/-- What a token is redeemed for is what the uses before have left of it, if that is still good. -/
theorem redeem_after (lifetime : Lifetime) (uses : List TableUse) (now : Instant)
    (credential : String) :
    (((empty lifetime).after uses).redeem now credential).1.toOption =
      ((EntryEvent.fold StoredToken.expiresAt (TableUse.event lifetime credential) none uses).filter
        (isLive now)).map (·.payload) := by
  rw [(redeem_cases ..).1, ((isKept_empty lifetime).after credential uses).2]
  rfl

/-- A token is redeemed for the payload for which it stands, as long as it is good. -/
theorem redeem_after_eq_ok_iff (past : ∀ use ∈ uses, use.now.nanos ≤ now.nanos) :
    (((empty lifetime).after uses).redeem now credential).1 = .ok payload ↔
      ∃ expiresAt, Stands (TableUse.event lifetime credential) uses ⟨payload, expiresAt⟩ ∧
        now.nanos < expiresAt.nanos := by
  have found : ∀ stored,
      _ ↔ Stands (TableUse.event lifetime credential) uses stored ∧ isLive now stored = true :=
    fun stored => EntryEvent.filter_fold_eq_some_iff (inspected past)
  have accepted : ∀ answer : Except GrantError AccessToken,
      answer = .ok payload ↔ answer.toOption = some payload := fun answer => by
    cases answer <;> simp [Except.toOption]
  rw [accepted, redeem_after, Option.map_eq_some_iff]
  constructor
  · rintro ⟨⟨_, expiresAt⟩, present, rfl⟩
    obtain ⟨stands, live⟩ := (found _).mp present
    exact ⟨expiresAt, stands, of_decide_eq_true live⟩
  · rintro ⟨expiresAt, stands, early⟩
    exact ⟨⟨payload, expiresAt⟩, (found _).mpr ⟨stands, decide_eq_true early⟩, rfl⟩

/-- What tokens are redeemed for does not depend on sweeps. -/
theorem redeemings_filter (onward : Onward TableUse.now uses) :
    (empty lifetime).redeemings (uses.filter (!·.isSweep)) = (empty lifetime).redeemings uses := by
  refine answers_filter (fun _ use dropped => ?_) fun before use rest split => ?_
  · cases use with
    | issue | redeem => cases dropped
    | sweep now => rfl
  · subst split
    cases use with
    | issue | sweep => rfl
    | redeem now token =>
      refine congrArg ([·]) ((redeem_after ..).trans (Eq.trans ?_ (redeem_after ..).symm))
      exact congrArg (Option.map _) (EntryEvent.filter_fold_filter TableUse.isPassing_of_sweep
        (inspected onward.before.2))

/-- Whether a sweep drops only tokens that are not valid any more, and says how many. -/
structure SweepsExactly (lifetime : Lifetime) (table : ReferenceTokens) (now : Instant) : Prop where
  drops : table.entries.Drops (table.sweep now).2.entries (table.sweep now).1
  /-- Even without the sweep nothing that is dropped would have been valid later, unless it had been issued
  again. -/
  useless : ∀ credential, table.entries.contains credential = true →
    (table.sweep now).2.entries.contains credential = false →
    ∀ more later, now.nanos ≤ later.nanos →
      (∀ use ∈ more, ∀ entry, use.event lifetime credential ≠ .enter entry) →
      ∃ message, ((table.after more).redeem later credential).1 = .error (.invalidToken message)

theorem IsKept.sweepsExactly (kept : table.IsKept lifetime) (now : Instant) :
    table.SweepsExactly lifetime now where
  drops := kept.ordered.filter_drops fun _ stored => isLive now stored
  useless credential _ dropped more later onward unmade := by
    have expired : (table.entries.get? credential).filter (isLive now) = none := by
      rw [← kept.ordered.get?_filter fun _ stored => isLive now stored]
      exact Option.not_isSome_iff_eq_none.mp (Bool.eq_false_iff.mp dropped)
    have gone := EntryEvent.filter_fold_eq_none unmade onward expired
    rw [← (kept.after credential more).2] at gone
    have nothing := (redeem_cases ..).1.trans (Option.map_eq_none_iff.mpr gone)
    cases redeemed : ((table.after more).redeem later credential).1 with
    | ok payload =>
      rw [redeemed] at nothing
      cases nothing
    | error error =>
      obtain ⟨message, rfl⟩ := (redeem_cases ..).2 error redeemed
      exact ⟨message, rfl⟩

end ReferenceTokens

/-! ## What users get to see -/

/-- What a store of tickets gives in the course of uses. -/
structure Tickets.KeepsTime (lifetime : Lifetime) (uses : List TicketUse) : Prop where
  /-- A take gives the ticket that was last put under the identifier, if it was not taken since and its
  lifetime is not over. -/
  taken : ∀ before now id rest, uses = before ++ .take now id :: rest → ∀ ticket,
    (((empty lifetime).after before).take now id).1 = some ticket ↔
      ∃ expiresAt, Stands (TicketUse.event lifetime id) before ⟨ticket, expiresAt⟩ ∧
        now.nanos < expiresAt.nanos
  /-- With more or fewer sweeps all takes give the same. -/
  unseen : ∀ others, Onward TicketUse.now others →
    others.filter (!·.isSweep) = uses.filter (!·.isSweep) →
    (empty lifetime).takings others = (empty lifetime).takings uses
  swept : ∀ before now rest, uses = before ++ .sweep now :: rest →
    ((empty lifetime).after before).SweepsExactly lifetime now

/-- What a table of reference tokens gives in the course of uses. -/
structure ReferenceTokens.KeepsTime (lifetime : Lifetime) (uses : List TableUse) : Prop where
  /-- A token is redeemed for the payload for which it was issued last, if its lifetime is not over. -/
  redeemed : ∀ before now token rest, uses = before ++ .redeem now token :: rest → ∀ payload,
    (((empty lifetime).after before).redeem now token).1 = .ok payload ↔
      ∃ expiresAt, Stands (TableUse.event lifetime token) before ⟨payload, expiresAt⟩ ∧
        now.nanos < expiresAt.nanos
  /-- Otherwise it is not valid. -/
  refused : ∀ before now token rest, uses = before ++ .redeem now token :: rest → ∀ error,
    (((empty lifetime).after before).redeem now token).1 = .error error →
      ∃ message, error = .invalidToken message
  /-- With more or fewer sweeps all tokens are redeemed for the same. -/
  unseen : ∀ others, Onward TableUse.now others →
    others.filter (!·.isSweep) = uses.filter (!·.isSweep) →
    (empty lifetime).redeemings others = (empty lifetime).redeemings uses
  swept : ∀ before now rest, uses = before ++ .sweep now :: rest →
    ((empty lifetime).after before).SweepsExactly lifetime now

/-- Both kinds of stores keep time: for any lifetimes and any uses that follow one another in time, an entry
is found exactly from when it was made until its lifetime is over, and nobody can tell when it was swept. -/
theorem stores_keepTime (ticketLifetime tokenLifetime : Lifetime) {ticketUses : List TicketUse}
    {tokenUses : List TableUse} (ticketsOnward : Onward TicketUse.now ticketUses)
    (tokensOnward : Onward TableUse.now tokenUses) :
    Tickets.KeepsTime ticketLifetime ticketUses ∧
      ReferenceTokens.KeepsTime tokenLifetime tokenUses := by
  constructor
  · refine ⟨?_, fun others onward same => ?_, ?_⟩
    · rintro before now id rest rfl ticket
      exact Tickets.take_after_eq_some_iff ticketsOnward.before.2
    · rw [← Tickets.takings_filter onward, same, Tickets.takings_filter ticketsOnward]
    · rintro before now rest rfl
      exact ((Tickets.isKept_empty ticketLifetime).after "" before).1.sweepsExactly now
  · refine ⟨?_, ?_, fun others onward same => ?_, ?_⟩
    · rintro before now token rest rfl payload
      exact ReferenceTokens.redeem_after_eq_ok_iff tokensOnward.before.2
    · rintro before now token rest rfl
      exact (ReferenceTokens.redeem_cases ..).2
    · rw [← ReferenceTokens.redeemings_filter onward, same,
        ReferenceTokens.redeemings_filter tokensOnward]
    · rintro before now rest rfl
      exact ((ReferenceTokens.isKept_empty tokenLifetime).after "" before).1.sweepsExactly now

/-! ## An afternoon

A ticket is replaced, swept around and taken, and the next one under the identifier is swept at the very
instant of its expiry. A token is redeemed a nanosecond before its expiry and at it. -/

namespace Afternoon

def minute (count : Int) : Instant := ⟨Lifetime.minutes count⟩

def first : Ticket := .new [.of "report" [Scope.read]] []

def second : Ticket := .new [.of "diary" [Scope.read]] []

def ticketUses : List TicketUse :=
  [.put (minute 0) "t" first, .put (minute 10) "t" second, .sweep (minute 30), .take (minute 35) "t",
    .put (minute 40) "t" first, .sweep (minute 70), .take (minute 70) "t"]

def payload : AccessToken := ⟨[.of "report" [Scope.read]], none⟩

def tokenUses : List TableUse :=
  [.issue (minute 0) ⟨0⟩ payload, .sweep (minute 10),
    .redeem ⟨(minute 30).nanos - 1⟩ (Fresh.credential 0), .redeem (minute 30) (Fresh.credential 0),
    .sweep (minute 30)]

end Afternoon

open Afternoon in
theorem stores_keepTime_afternoon :
    Tickets.KeepsTime Tickets.defaultLifetime ticketUses ∧
      ReferenceTokens.KeepsTime ReferenceTokens.defaultLifetime tokenUses ∧
      (Tickets.empty Tickets.defaultLifetime).takings ticketUses = [some second, none] ∧
      (ReferenceTokens.empty ReferenceTokens.defaultLifetime).redeemings tokenUses =
        [some payload, none] := by
  have ticketsOnward : Onward TicketUse.now ticketUses := by
    unfold Onward
    decide
  have tokensOnward : Onward TableUse.now tokenUses := by
    unfold Onward
    decide
  obtain ⟨tickets, tokens⟩ := stores_keepTime Tickets.defaultLifetime
    ReferenceTokens.defaultLifetime ticketsOnward tokensOnward
  exact ⟨tickets, tokens, by rfl, by rfl⟩

end UmaGrant
