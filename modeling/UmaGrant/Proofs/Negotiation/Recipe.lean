import UmaGrant.Proofs.Negotiation.Denial
import UmaGrant.Proofs.Negotiation.Ledger
import UmaGrant.Proofs.Negotiation.Pursuing
/-! # What a client is told to do

A client that needs more claims is told of each alternative which claim types it lacks, and for which
sources tokens are lacking. That is a recipe: whoever shows good claims of all types that one of the
alternatives lacks, and tokens for all the sources, is given an access token in the next turn. What is good
is decided on the claims as the strategy passes them on: grants from elsewhere are written down anew before
an alternative gets to see them.
-/

namespace UmaGrant

/-- Whether a client is told what its ticket lacks: for each alternative, in the order in which they
were offered, the claim types that are left, and for each source that is outstanding one descriptor, in
the order of their identifiers. -/
structure Strategy.Reports (strategy : Strategy) (opening : Descriptions) (asked : List Permission)
    (shown : List Claims) (issuers : Issuers) (offered : List Requirements)
    (required : RequiredClaims) : Prop where
  claimTypes : required.claimTypes =
    offered.map fun alternative => (alternative.remaining (strategy.history shown)).claimTypes
  derivations : ∃ ids : List String, ids.Pairwise (· < ·) ∧
    (∀ id, id ∈ ids ↔ strategy.Outstanding opening asked shown id) ∧
    List.Forall₂ (Derivation.Describes issuers) ids required.derivations

/-- Every source that is outstanding has its descriptor. -/
theorem Strategy.Reports.described {strategy : Strategy} {opening : Descriptions}
    {asked : List Permission} {shown : List Claims} {issuers : Issuers}
    {offered : List Requirements} {required : RequiredClaims}
    (reports : strategy.Reports opening asked shown issuers offered required) {id : String}
    (outstanding : strategy.Outstanding opening asked shown id) :
    ∃ claim ∈ required.derivations, claim.derivationResourceId = id := by
  obtain ⟨ids, -, listed, described⟩ := reports.derivations
  have member := (listed id).mpr outstanding
  clear listed
  generalize required.derivations = claims at described ⊢
  induction described with
  | nil => cases member
  | @cons first claim rest others describes _ ih =>
    rcases List.mem_cons.mp member with rfl | member
    · obtain ⟨_, _, rfl⟩ := describes
      exact ⟨_, List.mem_cons_self, rfl⟩
    · obtain ⟨other, among, same⟩ := ih member
      exact ⟨other, List.mem_cons_of_mem _ among, same⟩

namespace Turn

variable {server : Server} {turn later : Turn} {id : String} {shown : List Claims}

/-- Whether a turn goes on with the ticket that an earlier one has handed out, before that expires, by
tokens that all prove something. The token factory of the server is in order. -/
structure Resumes (server : Server) (turn : Turn) (id : String) (later : Turn) (shown : List Claims) :
    Prop where
  takes : later.takes id = true
  stored : later.realm.tickets.entries.get? id = (turn.left server).tickets.entries.get? id
  proves : ∃ checked, later.request.check = .ok checked ∧
    (server.verifier.verifyAll later.now checked.tokens later.realm.factories).1 = .ok shown
  mints : later.realm.factories.Mints server.factory later.now

/-- A turn that goes on with a ticket which is settled by what it shows issues a token. -/
theorem Resumes.issues (resumes : turn.Resumes server id later shown)
    (plain : server.contracting = none)
    (eliminating : server.strategy.settlement.method = .elimination)
    (taking : server.takeOutage = none) {stored : StoredTicket}
    (present : (turn.left server).tickets.entries.get? id = some stored)
    (settled : (server.strategy.addAll stored.ticket shown).isSatisfied = true)
    (allOpen : ∀ source, (server.strategy.addAll stored.ticket shown).isDerived source = false) :
    ∃ payload, later.Issues server payload := by
  obtain ⟨named, found, here, live⟩ := takes_iff.mp resumes.takes
  obtain rfl : stored = found := Option.some.inj (present.symm.trans (resumes.stored.symm.trans here))
  obtain ⟨tokens, checks⟩ := TokenRequest.named?_eq_some_iff.mp named
  obtain ⟨checked, passes, proven⟩ := resumes.proves
  cases checks.symm.trans passes
  have obtained := Server.obtainTicket_resume taking here live
  generalize verified : server.verifier.verifyAll later.now tokens later.realm.factories = answer
    at proven
  obtain ⟨_, factories⟩ := answer
  cases proven
  -- Verifying tokens makes the factory forget at most tokens that have expired.
  have agree : later.realm.factories.Agree (fun _ => False) factories := by
    have after := server.verifier.verifyAll_agree (.refl (fun _ => False) later.realm.factories)
      (TokenFactories.noneExpired_none later.now _) tokens
    rwa [verified] at after
  obtain ⟨granted, supply, resolved⟩ : ∃ granted supply,
      (server.strategy.resolve later.realm.descriptions later.realm.issuers later.realm.supply
        (server.strategy.addAll stored.ticket shown)).outcome = .ok (.success granted, supply) :=
    Strategy.resolve_of_settled eliminating settled allOpen later.realm.supply
  have weighed := Server.weigh_of_obtained checks obtained (Server.pursue_ok verified resolved)
  have ended : (later.weighing server).outcome =
      .ok (server.strategy.addAll stored.ticket shown, .success granted) := weighed.1
  obtain ⟨token, minted⟩ := agree.mints resumes.mints supply ⟨granted, none⟩
  have answered : later.answer server =
      .ok ⟨token.text, token.type, Server.derivationId? granted⟩ := by
    rw [(of_weighing_ok ended).1, Server.conclude_success plain, Server.run_issue]
    change Except.map _ ((later.weighing server).realm.factories.issue _ _ _ _).1 = _
    rw [show (later.weighing server).realm = _ from weighed.2, minted]
    rfl
  exact ⟨_, issues_of_weighing plain ended answered⟩

end Turn

namespace Run

variable {server : Server} {turn : Turn} {earlier : List Turn} {id : String}

/-- A client that is told of a ticket is told exactly what that lacks. Whoever goes on with it by claims of
all types that one of the alternatives lacks, good as they are passed on, and by tokens for all sources that
are named, is given an access token. Which of the alternatives it is does not matter, nor does the order of
the tokens or whatever else they prove. -/
theorem needInfo_suffices (plain : server.contracting = none)
    (eliminating : server.strategy.settlement.method = .elimination)
    (taking : server.takeOutage = none) (run : Run server (turn :: earlier))
    (handed : turn.handedOut? server = some id) :
    ∃ first asked offered required, (Turn.thread server (turn :: earlier)).getLast? = some first ∧
      first.asked? = some asked ∧
      server.strategy.offers first.realm.descriptions asked = .ok offered ∧
      turn.answer server = .error (.refused (.needInfo id required)) ∧
      let shown := Turn.allShown server (Turn.thread server (turn :: earlier))
      server.strategy.Reports first.realm.descriptions asked shown (turn.left server).issuers offered
        required ∧
      ∀ later more, turn.Resumes server id later more →
        ∀ alternative ∈ offered,
          server.strategy.Meets (alternative.remaining (server.strategy.history shown)) more →
          (∀ claim ∈ required.derivations,
            ∃ claims ∈ more, Derivation.Opens claims claim.derivationResourceId) →
          ∃ payload, later.Issues server payload := by
  obtain ⟨ticket, missing, expiresAt, weighed, rfl, putsBack, answered, leaves⟩ :=
    Turn.told_of_handedOut handed
  obtain ⟨first, asked, last, asking, lacks⟩ :=
    run.weighing_tells (Strategy.keeps_lacks eliminating) weighed
  obtain ⟨offered, offers, left⟩ := lacks.alternatives
  have described := lacks.described weighed
  have issuers : (turn.left server).issuers = (turn.weighing server).realm.issuers := by
    rw [leaves]
    rfl
  rw [← issuers] at described
  have reports : server.strategy.Reports first.realm.descriptions asked
      (Turn.allShown server (Turn.thread server (turn :: earlier))) (turn.left server).issuers
      offered ⟨ticket.outstandingClaimTypes, missing.filterMap MissingClaims.derivation?⟩ := by
    refine ⟨?_, ticket.derivedIds.keys, lacks.ordered, fun _ => lacks.mem_keys, described⟩
    rw [Ticket.outstandingClaimTypes, left, List.map_map]
    rfl
  refine ⟨first, asked, offered, _, last, asking, offers, answered, reports, ?_⟩
  intro later more resumes alternative member meets opened
  refine resumes.issues plain eliminating taking putsBack.present ?_ fun source => ?_
  · rw [Strategy.isSatisfied_addAll eliminating, left]
    exact ⟨_, List.mem_map_of_mem member, meets.metBy⟩
  · -- What is outstanding in the end was so before, and then what is shown now opens it.
    have lacksLess := (Strategy.keeps_lacks eliminating).addAll lacks more
    rw [← Bool.not_eq_true, lacksLess.sources]
    rintro ⟨coded, demanded, unopened⟩
    obtain ⟨claim, named, rfl⟩ := reports.described ⟨coded, demanded, fun claims among =>
      unopened claims (List.mem_append_right _ among)⟩
    obtain ⟨claims, among, opens⟩ := opened claim named
    exact unopened claims (List.mem_append_left _ (List.mem_reverse.mpr among)) opens

end Run

/-! ## A report for one reader -/

namespace Report

def reader : String := "https://alice.example/me"

/-- A server that gives the report to its reader only. -/
def guarding : Server :=
  { server with
    strategy := ⟨⟨.elimination, .webIds [reader]⟩, some codec⟩
    verifier := .byFormat [(ClaimFormat.bareWebId, .trusting), (ClaimFormat.accessToken, server.verifier)] }

/-- The reader shows a grant on the source and then its WebID. -/
def following : Turn :=
  ⟨⟨0⟩, ((TokenRequest.forTicket (Fresh.identifier 0)).push
      ⟨"upstream grant", ClaimFormat.accessToken⟩).push ⟨reader, ClaimFormat.bareWebId⟩,
    opening.left guarding⟩

def proven : List Claims :=
  [Dict.empty.insert ClaimType.access (Permission.listToJson [.of "upstream" [Scope.derivationRead]]),
    Dict.empty.insert ClaimType.webId (.string reader)]

theorem resumes_following :
    opening.Resumes guarding (Fresh.identifier 0) following proven :=
  ⟨rfl, rfl, ⟨_, rfl, rfl⟩, ⟨⟨0⟩, payload, _, rfl⟩⟩

theorem meets_proven : guarding.strategy.Meets
    ((Requirements.withOneOf .empty ClaimType.webId [reader]).remaining []) proven := by
  intro claimType predicate required
  obtain ⟨rfl, rfl⟩ := Requirements.eq_of_get?_withOneOf (Requirements.get?_remaining.mp required).1
  exact ⟨_, List.mem_cons_of_mem _ List.mem_cons_self, .string reader, rfl, rfl⟩

/-- What the reader is asked for: its WebID, and a token for the source. -/
def readerLacking : RequiredClaims := ⟨[[ClaimType.webId]], upstream.derivations⟩

/-- The same server while its tickets cannot be taken out of their store. -/
def stuck : Server := { guarding with takeOutage := some (.storage "disk full") }

theorem resumes_stuck : opening.Resumes stuck (Fresh.identifier 0) following proven :=
  ⟨rfl, rfl, ⟨_, rfl, rfl⟩, ⟨⟨0⟩, payload, _, rfl⟩⟩

/-- A realm whose access tokens would last beyond the calendar. -/
def endless : Realm :=
  { realm with
    factories := Dict.empty.insert "tokens" (.reference (.empty (Lifetime.seconds 315576000000))) }

/-- The turns of before in that realm. -/
def endlessOpening : Turn := { opening with realm := endless }

def endlessFollowing : Turn := { following with realm := endlessOpening.left guarding }

/-! Grants in one written form only. -/

/-- A grant without scopes, in its shortest form. -/
def terse : Json := .array [.object [("resource_id", .string "r9")]]

/-- Passes that form only. -/
def terseOnly : Predicate :=
  .ofTest fun
    | .array [.object [("resource_id", .string "r9")]] => true
    | _ => false

/-- An authorizer of its own asks for that form. -/
def exacting : Server :=
  { server with
    strategy :=
      ⟨⟨.elimination, .remote
        ⟨fun _ _ => .ok [], fun _ _ => .ok [Dict.empty.insert ClaimType.access terseOnly]⟩⟩, some codec⟩
    verifier := .known [("terse grant", .ok (Dict.empty.insert ClaimType.access terse))]
      (.verification "Unknown token") }

def grantLacking : RequiredClaims := ⟨[[ClaimType.access]], []⟩

def noteFor : Turn := ⟨⟨0⟩, .forPermissions [.of "note" [Scope.read]], realm⟩

/-- The grant is shown in just that form. -/
def showingTerse : Turn :=
  ⟨⟨0⟩, (TokenRequest.forTicket (Fresh.identifier 0)).push ⟨"terse grant", ClaimFormat.accessToken⟩,
    noteFor.left exacting⟩

theorem resumes_showingTerse : noteFor.Resumes exacting (Fresh.identifier 0) showingTerse
    [Dict.empty.insert ClaimType.access terse] :=
  ⟨rfl, rfl, ⟨_, rfl, rfl⟩, ⟨⟨0⟩, payload, _, rfl⟩⟩

end Report

namespace Run

theorem needInfo_suffices_report :
    ∃ payload, Report.following.Issues Report.guarding payload := by
  obtain ⟨first, asked, offered, required, last, asking, offers, answered, _, goesOn⟩ :=
    needInfo_suffices rfl rfl rfl (.first rfl)
      (rfl : Report.opening.handedOut? Report.guarding = some (Fresh.identifier 0))
  cases last
  cases asking
  cases offers
  cases answered
  refine goesOn Report.following Report.proven Report.resumes_following
    (Requirements.withOneOf .empty ClaimType.webId [Report.reader]) List.mem_cons_self
    Report.meets_proven ?_
  intro claim member
  obtain rfl := List.mem_singleton.mp member
  exact ⟨_, List.mem_cons_self, _, rfl, _, List.mem_cons_self, rfl, rfl⟩

/-- What is asked for does not always suffice. A value may pass as it is shown and not as it is passed on;
the store may be out of order when the ticket is to be taken out; and the access token may end beyond the
calendar. -/
theorem recipe_falls_short :
    (Report.noteFor.answer Report.exacting =
        .error (.refused (.needInfo (Fresh.identifier 0) Report.grantLacking)) ∧
      Report.exacting.strategy.offers Report.descriptions [.of "note" [Scope.read]] =
        .ok [Dict.empty.insert ClaimType.access Report.terseOnly] ∧
      Report.noteFor.Resumes Report.exacting (Fresh.identifier 0) Report.showingTerse
        [Dict.empty.insert ClaimType.access Report.terse] ∧
      Report.terseOnly.passes Report.terse = true ∧
      Report.showingTerse.answer Report.exacting =
        .error (.refused (.needInfo (Fresh.identifier 1) Report.grantLacking))) ∧
    (Report.opening.answer Report.stuck =
        .error (.refused (.needInfo (Fresh.identifier 0) Report.readerLacking)) ∧
      Report.opening.Resumes Report.stuck (Fresh.identifier 0) Report.following Report.proven ∧
      Report.following.answer Report.stuck = .error (.refused (.storage "disk full"))) ∧
    Report.endlessOpening.answer Report.guarding =
        .error (.refused (.needInfo (Fresh.identifier 0) Report.readerLacking)) ∧
      Report.endlessFollowing.takes (Fresh.identifier 0) = true ∧
      Report.endlessFollowing.answer Report.guarding = .error .beyondCalendar :=
  ⟨⟨rfl, rfl, Report.resumes_showingTerse, rfl, rfl⟩, ⟨rfl, Report.resumes_stuck, rfl⟩, rfl, rfl,
    rfl⟩

end Run

end UmaGrant
