import UmaGrant.Proofs.Negotiation.Parts
import UmaGrant.Proofs.Strategy.Independence
import UmaGrant.Proofs.Supply
import UmaGrant.Proofs.Token.Standing
/-! # Parallel realms

A client may find the same in two realms: one in which it is alone, and one in which it is among
others. The two realms are parallel for it if they hold the same tickets, each under an identifier that
the client was given in the one realm and under one that it was given in the other. Whatever a round
changes in both realms at a time keeps them parallel.
-/

namespace UmaGrant

namespace Realm

/-! ## Realms that stem from another one -/

/-- Whether a realm is still as another one was in all that is the same for every client. What token
factories say matters for some texts only. -/
structure Stems (concerns : String → Prop) (start realm : Realm) : Prop where
  descriptions : realm.descriptions = start.descriptions
  lifetime : realm.tickets.lifetime = start.tickets.lifetime
  factories : start.factories.Agree concerns realm.factories
  supply : start.supply.next ≤ realm.supply.next

/-- Whether an identifier is that of a number which has been drawn. -/
def Drawn (realm : Realm) (id : String) : Prop :=
  ∃ number < realm.supply.next, id = Fresh.identifier number

variable {concerns : String → Prop} {listings : Listings} {start realm alone among : Realm}
  {now : Instant} {pairs : List (String × String)}

theorem Stems.refl (concerns : String → Prop) (realm : Realm) : Stems concerns realm realm :=
  ⟨rfl, rfl, .refl concerns _, Nat.le_refl _⟩

theorem Drawn.mono {id : String} (drawn : realm.Drawn id) {later : Realm}
    (fresh : realm.supply.next ≤ later.supply.next) : later.Drawn id := by
  obtain ⟨number, below, same⟩ := drawn
  exact ⟨number, Nat.lt_of_lt_of_le below fresh, same⟩

/-- What is drawn next has not been drawn. -/
theorem Drawn.ne_next {id : String} (drawn : realm.Drawn id) {number : Nat}
    (fresh : realm.supply.next ≤ number) : id ≠ Fresh.identifier number := by
  obtain ⟨earlier, below, rfl⟩ := drawn
  intro same
  have equal : earlier = number := Fresh.identifier_injective same
  omega

/-- A verifier goes on saying about the texts that matter what it would have said at the start. It does
not matter what it has been asked, as long as tokens have not expired or have been accepted. -/
theorem Stems.verify (stems : start.Stems concerns realm) (token : ClaimToken)
    (verifier : Verifier) :
    (concerns token.token → (verifier.verify now token realm.factories).1 =
        (verifier.verify now token start.factories).1) ∧
      (start.factories.NoneExpired concerns now ∨
          (∃ claims, (verifier.verify now token realm.factories).1 = .ok claims) →
        start.Stems concerns
          { realm with factories := (verifier.verify now token realm.factories).2 }) := by
  obtain ⟨same, agree⟩ := verifier.verify_agrees stems.factories
  exact ⟨same, fun good => { stems with factories := agree good }⟩

theorem Stems.issue (stems : start.Stems concerns realm)
    (unmade : ∀ text, concerns text → start.supply.Unmade text) {name : String}
    {payload : AccessToken} {issued : Except Halt IssuedToken} {factories : TokenFactories}
    {supply : Supply}
    (issuing : realm.factories.issue name now realm.supply payload = (issued, factories, supply)) :
    start.Stems concerns { realm with factories, supply } :=
  { stems with
    factories := stems.factories.issue unmade stems.supply issuing
    supply := Nat.le_trans stems.supply (TokenFactories.supply_issue issuing) }

/-! ## Parallel realms -/

/-- Whether a client that was given pairs of identifiers finds the same in two realms, in one of which
it is alone and in the other of which it is among others. -/
structure Parallel (concerns : String → Prop) (listings : Listings) (start : Realm)
    (pairs : List (String × String)) (alone among : Realm) : Prop where
  stems : start.Stems concerns alone
  stemsToo : start.Stems concerns among
  drawn : ∀ pair ∈ pairs, alone.Drawn pair.1
  drawnToo : ∀ pair ∈ pairs, among.Drawn pair.2
  apart : ∀ pair ∈ pairs, ∀ other ∈ pairs, pair.1 = other.1 ↔ pair.2 = other.2
  tickets : ∀ pair ∈ pairs,
    among.tickets.entries.get? pair.2 = alone.tickets.entries.get? pair.1
  /-- For the sources of the tickets both realms know servers. -/
  back : ∀ pair ∈ pairs, ∀ stored, alone.tickets.entries.get? pair.1 = some stored →
    alone.issuers.Back listings among.issuers stored.ticket

namespace Parallel

theorem refl (concerns : String → Prop) (listings : Listings) (start : Realm) :
    start.Parallel concerns listings [] start start where
  stems := .refl concerns start
  stemsToo := .refl concerns start
  drawn := nofun
  drawnToo := nofun
  apart := nofun
  tickets := nofun
  back := nofun

variable (parallel : start.Parallel concerns listings pairs alone among)

include parallel

/-- Numbers may be drawn in both realms. -/
theorem draw {supply supplyToo : Supply} (fresh : alone.supply.next ≤ supply.next)
    (freshToo : among.supply.next ≤ supplyToo.next) :
    start.Parallel concerns listings pairs { alone with supply }
      { among with supply := supplyToo } :=
  { parallel with
    stems := { parallel.stems with supply := Nat.le_trans parallel.stems.supply fresh }
    stemsToo := { parallel.stemsToo with supply := Nat.le_trans parallel.stemsToo.supply freshToo }
    drawn := fun pair member => (parallel.drawn pair member).mono fresh
    drawnToo := fun pair member => (parallel.drawnToo pair member).mono freshToo }

/-- Tokens may be issued in both realms, as long as they do not concern the client. -/
theorem issue (unmade : ∀ text, concerns text → start.supply.Unmade text) (name : String)
    (payload payloadToo : AccessToken) :
    let issued := alone.factories.issue name now alone.supply payload
    let issuedToo := among.factories.issue name now among.supply payloadToo
    start.Parallel concerns listings pairs
      { alone with factories := issued.2.1, supply := issued.2.2 }
      { among with factories := issuedToo.2.1, supply := issuedToo.2.2 } :=
  { parallel.draw (TokenFactories.supply_issue rfl) (TokenFactories.supply_issue rfl) with
    stems := parallel.stems.issue unmade rfl
    stemsToo := parallel.stemsToo.issue unmade rfl }

/-- A ticket may be taken out of both realms. -/
theorem take (now : Instant) {pair : String × String} (member : pair ∈ pairs) :
    start.Parallel concerns listings pairs
      { alone with tickets := (alone.tickets.take now pair.1).2 }
      { among with tickets := (among.tickets.take now pair.2).2 } :=
  { parallel with
    stems := { parallel.stems with }
    stemsToo := { parallel.stemsToo with }
    tickets := fun other memberToo => by
      change (among.tickets.entries.erase pair.2).get? other.2 =
        (alone.tickets.entries.erase pair.1).get? other.1
      by_cases same : other.1 = pair.1
      · have sameToo : other.2 = pair.2 := (parallel.apart other memberToo pair member).mp same
        rw [same, sameToo, Dict.get?_erase_same, Dict.get?_erase_same]
      · have differ : other.2 ≠ pair.2 := mt (parallel.apart other memberToo pair member).mpr same
        rw [Dict.get?_erase_other _ same, Dict.get?_erase_other _ differ]
        exact parallel.tickets other memberToo
    back := fun other memberToo stored found =>
      parallel.back other memberToo stored (Dict.get?_erase_eq_some_iff.mp found).2 }

/-- A ticket may be put into both realms under fresh identifiers. -/
theorem put {stored : StoredTicket}
    (back : alone.issuers.Back listings among.issuers stored.ticket) :
    start.Parallel concerns listings
      (pairs ++ [(Fresh.identifier alone.supply.next, Fresh.identifier among.supply.next)])
      { alone with
        tickets := { alone.tickets with
          entries := alone.tickets.entries.insert (Fresh.identifier alone.supply.next) stored }
        supply := ⟨alone.supply.next + 1⟩ }
      { among with
        tickets := { among.tickets with
          entries := among.tickets.entries.insert (Fresh.identifier among.supply.next) stored }
        supply := ⟨among.supply.next + 1⟩ } := by
  have new : ∀ pair ∈ pairs, pair.1 ≠ Fresh.identifier alone.supply.next :=
    fun pair member => (parallel.drawn pair member).ne_next (Nat.le_refl _)
  have newToo : ∀ pair ∈ pairs, pair.2 ≠ Fresh.identifier among.supply.next :=
    fun pair member => (parallel.drawnToo pair member).ne_next (Nat.le_refl _)
  have drawn := parallel.draw (Nat.le_succ alone.supply.next) (Nat.le_succ among.supply.next)
  refine ⟨{ drawn.stems with }, { drawn.stemsToo with }, ?drawn, ?drawnToo, ?apart, ?tickets, ?back⟩
  case drawn =>
    rw [List.forall_mem_append, List.forall_mem_singleton]
    exact ⟨drawn.drawn, _, Nat.lt_succ_self _, rfl⟩
  case drawnToo =>
    rw [List.forall_mem_append, List.forall_mem_singleton]
    exact ⟨drawn.drawnToo, _, Nat.lt_succ_self _, rfl⟩
  case apart =>
    simp only [List.forall_mem_append, List.forall_mem_singleton]
    refine ⟨fun pair member => ⟨parallel.apart pair member, ?_⟩, fun pair member => ?_, trivial⟩
    · exact iff_of_false (new pair member) (newToo pair member)
    · exact iff_of_false (new pair member).symm (newToo pair member).symm
  case tickets =>
    rw [List.forall_mem_append, List.forall_mem_singleton]
    refine ⟨fun pair member => ?_, by rw [Dict.get?_insert_same, Dict.get?_insert_same]⟩
    rw [Dict.get?_insert_other _ (new pair member), Dict.get?_insert_other _ (newToo pair member)]
    exact parallel.tickets pair member
  case back =>
    rw [List.forall_mem_append, List.forall_mem_singleton]
    refine ⟨fun pair member other found => ?_, fun other found => ?_⟩
    · rw [Dict.get?_insert_other _ (new pair member)] at found
      exact parallel.back pair member other found
    · rw [Dict.get?_insert_same] at found
      cases found
      exact back

/-- Sources of the client may be registered in both realms. -/
theorem register {sources : List Source} (own : ∀ source ∈ sources, listings.own source) :
    start.Parallel concerns listings pairs
      { alone with issuers := alone.issuers.register sources }
      { among with issuers := among.issuers.register sources } :=
  { parallel with
    stems := { parallel.stems with }
    stemsToo := { parallel.stemsToo with }
    back := fun pair member stored found => (parallel.back pair member stored found).register own }

end Parallel

/-- Whether realms are parallel also for a ticket that a client has just got. -/
structure ParallelFor (concerns : String → Prop) (listings : Listings) (start : Realm)
    (pairs : List (String × String)) (ticket other : Ticket) (alone among : Realm) : Prop where
  same : other = ticket
  parallel : start.Parallel concerns listings pairs alone among
  back : alone.issuers.Back listings among.issuers ticket

end Realm

end UmaGrant
