import UmaGrant.Proofs.Negotiation.Parallel
import UmaGrant.Proofs.Negotiation.Turn
/-! # Answers alike

A client that makes the same request in two parallel realms goes through the same round in both, step
by step, and is answered alike. What it is told may differ in fresh values, and in issuers that others
had written down in the second realm.
-/

namespace UmaGrant

/-! ## Passages that match -/

/-- Whether two passages have both ended early, for the same reason, or have both come to values. The
realms that they leave are related in either case. -/
inductive Passage.Match {α β : Type} (halted : Realm → Realm → Prop)
    (after : α → β → Realm → Realm → Prop) (first : Passage α) (second : Passage β) : Prop
  | halts (halt : Halt) (ended : first.outcome = .error halt) (endedToo : second.outcome = .error halt)
      (related : halted first.realm second.realm)
  | succeeds (value : α) (other : β) (ended : first.outcome = .ok value)
      (endedToo : second.outcome = .ok other) (related : after value other first.realm second.realm)

/-- Passages match if their first parts do, and whatever matches after those. -/
theorem Passage.Match.bind {α β γ δ : Type} {halted : Realm → Realm → Prop}
    {middle : α → β → Realm → Realm → Prop} {after : γ → δ → Realm → Realm → Prop}
    {first : Round α} {second : Round β} {next : α → Round γ} {nextToo : β → Round δ}
    {realm other : Realm} (matching : Match halted middle (first.run realm) (second.run other))
    (goesOn : ∀ value another left leftToo, middle value another left leftToo →
      Match halted after ((next value).run left) ((nextToo another).run leftToo)) :
    Match halted after ((first >>= next).run realm) ((second >>= nextToo).run other) := by
  rw [Round.run_bind, Round.run_bind]
  cases matching with
  | halts halt ended endedToo related =>
    rw [ended, endedToo]
    exact .halts halt rfl rfl related
  | succeeds value another ended endedToo related =>
    rw [ended, endedToo]
    cases goesOn value another _ _ related with
    | halts halt stopped stoppedToo left => exact .halts halt stopped stoppedToo left
    | succeeds last lastToo reached reachedToo left =>
      exact .succeeds last lastToo reached reachedToo left

/-! ## The same request -/

/-- Whether two requests have the same aim, be it under different identifiers of a pair. -/
inductive TokenRequest.Aim.Paired (pairs : List (String × String)) :
    TokenRequest.Aim → TokenRequest.Aim → Prop
  | begin (asked : List Permission) : Paired pairs (.begin asked) (.begin asked)
  | resume {pair : String × String} (member : pair ∈ pairs) :
      Paired pairs (.resume pair.1) (.resume pair.2)

namespace Server

variable {server : Server} {now : Instant} {concerns : String → Prop} {listings : Listings}
  {start alone among : Realm} {pairs : List (String × String)} {ticket other : Ticket}

/-! ## A round of the client -/

private theorem run_openTicket (asked : List Permission) {realm : Realm}
    {descriptions : Descriptions} (fixed : realm.descriptions = descriptions) :
    ∃ log, (server.openTicket asked).run realm =
      match server.strategy.opening descriptions asked with
      | .error error => ⟨.error (.refused error), realm, log⟩
      | .ok opened =>
        ⟨.ok opened.ticket, { realm with issuers := realm.issuers.register opened.sources }, log⟩ := by
  subst fixed
  rw [openTicket, Round.run_realm_bind, Round.run_consult_bind, Strategy.openTicket_eq]
  cases server.strategy.opening realm.descriptions asked <;> exact ⟨_, rfl⟩

private theorem obtainTicket_match {aim aimToo : TokenRequest.Aim} (paired : aim.Paired pairs aimToo)
    (own : ∀ asked, aim = .begin asked →
      ∀ source, server.strategy.Lists start.descriptions asked source → listings.own source)
    (parallel : start.Parallel concerns listings pairs alone among) :
    Passage.Match (start.Parallel concerns listings pairs)
      (start.ParallelFor concerns listings pairs)
      ((server.obtainTicket now aim).run alone) ((server.obtainTicket now aimToo).run among) := by
  cases paired with
  | begin asked =>
    obtain ⟨log, ran⟩ := server.run_openTicket asked parallel.stems.descriptions
    obtain ⟨logToo, ranToo⟩ := server.run_openTicket asked parallel.stemsToo.descriptions
    rw [obtainTicket, ran, ranToo]
    cases opens : server.strategy.opening start.descriptions asked with
    | error error => exact .halts (.refused error) rfl rfl parallel
    | ok opened =>
      obtain ⟨listed, demanded⟩ := Strategy.opening_sources opens
      have owned : ∀ source ∈ opened.sources, listings.own source :=
        fun source among => own asked rfl source (listed source among)
      exact .succeeds opened.ticket opened.ticket rfl rfl
        ⟨rfl, parallel.register owned, Issuers.back_register owned demanded⟩
  | @resume pair member =>
    rw [obtainTicket, obtainTicket]
    cases working : server.takeOutage with
    | some error =>
      rw [takeTicket, takeTicket, working]
      exact .halts (.refused error) rfl rfl parallel
    | none =>
      have taken := parallel.take now member
      have same : (among.tickets.take now pair.2).1 = (alone.tickets.take now pair.1).1 := by
        rw [Tickets.take, Tickets.take, parallel.tickets pair member]
      rw [run_takeTicket working, run_takeTicket working, same]
      cases found : (alone.tickets.take now pair.1).1 with
      | none => exact .halts (.refused invalidTicket) rfl rfl taken
      | some ticket =>
        obtain ⟨stored, present, _, rfl⟩ := Tickets.take_eq_some_iff.mp found
        exact .succeeds stored.ticket stored.ticket rfl rfl
          ⟨rfl, taken, parallel.back pair member stored present⟩

private theorem verifyToken_match {token : ClaimToken}
    (live : start.factories.NoneExpired concerns now) (concerned : concerns token.token)
    (holding : start.ParallelFor concerns listings pairs ticket other alone among) :
    Passage.Match (start.Parallel concerns listings pairs)
      (fun claims proven left after => proven = claims ∧
        start.ParallelFor concerns listings pairs ticket other left after)
      ((server.verifyToken now token).run alone) ((server.verifyToken now token).run among) := by
  obtain ⟨same, parallel, back⟩ := holding
  obtain ⟨answer, stems⟩ := parallel.stems.verify token server.verifier
  obtain ⟨answerToo, stemsToo⟩ := parallel.stemsToo.verify token server.verifier
  have verified : start.Parallel concerns listings pairs
      { alone with factories := (server.verifier.verify now token alone.factories).2 }
      { among with factories := (server.verifier.verify now token among.factories).2 } :=
    { parallel with stems := stems (.inl live), stemsToo := stemsToo (.inl live) }
  rw [run_verifyToken, run_verifyToken]
  dsimp only
  rw [answer concerned, answerToo concerned]
  cases (server.verifier.verify now token start.factories).1 with
  | error error => exact .halts (.refused error) rfl rfl verified
  | ok claims => exact .succeeds claims claims rfl rfl ⟨rfl, same, verified, back⟩

private theorem addClaims_match (claims : Claims)
    (holding : start.ParallelFor concerns listings pairs ticket other alone among) :
    Passage.Match (start.Parallel concerns listings pairs)
      (start.ParallelFor concerns listings pairs)
      ((Round.ofLogged (server.strategy.addClaims ticket claims)).run alone)
      ((Round.ofLogged (server.strategy.addClaims other claims)).run among) := by
  obtain ⟨rfl, parallel, back⟩ := holding
  refine .succeeds _ _ rfl rfl ⟨rfl, parallel, fun id derived => ?_⟩
  exact back id (Strategy.isDerived_of_addClaims derived)

private theorem addTokens_match {tokens : List ClaimToken}
    (live : start.factories.NoneExpired concerns now)
    (concerned : ∀ token ∈ tokens, concerns token.token)
    (holding : start.ParallelFor concerns listings pairs ticket other alone among) :
    Passage.Match (start.Parallel concerns listings pairs)
      (start.ParallelFor concerns listings pairs)
      ((server.addTokens now ticket tokens).run alone)
      ((server.addTokens now other tokens).run among) := by
  induction tokens generalizing ticket other alone among with
  | nil => exact .succeeds ticket other rfl rfl holding
  | cons token rest ih =>
    obtain ⟨concernedFirst, concernedRest⟩ := List.forall_mem_cons.mp concerned
    rw [addTokens, addTokens]
    refine (verifyToken_match live concernedFirst holding).bind ?_
    rintro _ claims left after ⟨rfl, verified⟩
    exact (addClaims_match claims verified).bind fun _ _ _ _ => ih concernedRest

private theorem resolveTicket_match
    (holding : start.ParallelFor concerns listings pairs ticket other alone among) :
    Passage.Match (start.Parallel concerns listings pairs)
      (fun resolution another left after => server.strategy.Alike listings resolution another ∧
        start.ParallelFor concerns listings pairs ticket other left after)
      ((server.resolveTicket ticket).run alone) ((server.resolveTicket other).run among) := by
  obtain ⟨rfl, parallel, back⟩ := holding
  rw [resolveTicket, Round.run_realm_bind, Round.run_realm_bind,
    Round.run_consult_bind, Round.run_consult_bind, parallel.stems.descriptions,
    parallel.stemsToo.descriptions]
  rcases server.strategy.resolve_alike start.descriptions back alone.supply
      among.supply with ⟨error, failed, failedToo⟩ |
    ⟨resolution, another, left, after, resolved, resolvedToo, alike⟩
  · rw [failed, failedToo]
    exact .halts (.refused error) rfl rfl parallel
  · have drawn := parallel.draw (Strategy.supply_resolve resolved)
      (Strategy.supply_resolve resolvedToo)
    rw [resolved, resolvedToo]
    exact .succeeds resolution another rfl rfl ⟨alike, rfl, drawn, back⟩

private theorem pursue_match {tokens : List ClaimToken}
    (live : start.factories.NoneExpired concerns now)
    (concerned : ∀ token ∈ tokens, concerns token.token)
    (holding : start.ParallelFor concerns listings pairs ticket other alone among) :
    Passage.Match (start.Parallel concerns listings pairs)
      (fun weighed another left after => server.strategy.Alike listings weighed.2 another.2 ∧
        start.ParallelFor concerns listings pairs weighed.1 another.1 left after)
      ((server.pursue now ticket tokens).run alone)
      ((server.pursue now other tokens).run among) := by
  refine (addTokens_match live concerned holding).bind fun grown another _ _ grownHolding => ?_
  refine (resolveTicket_match grownHolding).bind fun resolution resolutionToo _ _ resolved => ?_
  exact .succeeds (grown, resolution) (another, resolutionToo) rfl rfl resolved

end Server

/-- Whether two requests say the same, be it under different identifiers of a pair. -/
inductive TokenRequest.Paired (pairs : List (String × String)) (first second : TokenRequest) : Prop
  | refused {error : GrantError} (checks : first.check = .error error)
      (checksToo : second.check = .error error)
  | passed {aim aimToo : TokenRequest.Aim} {tokens : List ClaimToken}
      (checks : first.check = .ok ⟨aim, tokens⟩) (checksToo : second.check = .ok ⟨aimToo, tokens⟩)
      (paired : aim.Paired pairs aimToo)

/-- Whether a request opens a negotiation and a source is listed for what it asks for. -/
def TokenRequest.Lists (strategy : Strategy) (descriptions : Descriptions) (request : TokenRequest)
    (source : Source) : Prop :=
  ∃ asked tokens, request.check = .ok ⟨.begin asked, tokens⟩ ∧
    strategy.Lists descriptions asked source

theorem TokenRequest.Paired.lists {pairs : List (String × String)} {first second : TokenRequest}
    (paired : first.Paired pairs second) {strategy : Strategy} {descriptions : Descriptions}
    {source : Source} (listed : first.Lists strategy descriptions source) :
    second.Lists strategy descriptions source := by
  obtain ⟨asked, tokens, checks, listed⟩ := listed
  cases paired with
  | refused refused => cases checks.symm.trans refused
  | passed passed checksToo paired =>
    cases checks.symm.trans passed
    cases paired
    exact ⟨asked, tokens, checksToo, listed⟩

/-- Whether the claim tokens of a request are among some texts. -/
def TokenRequest.PushesOnly (concerns : String → Prop) (request : TokenRequest) : Prop :=
  ∀ checked, request.check = .ok checked → ∀ token ∈ checked.tokens, concerns token.token

namespace Server

variable {server : Server} {now : Instant} {concerns : String → Prop} {listings : Listings}
  {start alone among : Realm} {pairs : List (String × String)} {request requestToo : TokenRequest}

private theorem weigh_match (paired : request.Paired pairs requestToo)
    (own : ∀ source, request.Lists server.strategy start.descriptions source → listings.own source)
    (live : start.factories.NoneExpired concerns now) (concerned : request.PushesOnly concerns)
    (parallel : start.Parallel concerns listings pairs alone among) :
    Passage.Match (start.Parallel concerns listings pairs)
      (fun weighed another left after => server.strategy.Alike listings weighed.2 another.2 ∧
        start.ParallelFor concerns listings pairs weighed.1 another.1 left after)
      ((server.weigh now request).run alone) ((server.weigh now requestToo).run among) := by
  cases paired with
  | @refused error checks checksToo =>
    rw [run_weigh_error checks, run_weigh_error checksToo]
    exact .halts (.refused error) rfl rfl parallel
  | @passed aim aimToo tokens checks checksToo paired =>
    rw [run_weigh checks, run_weigh checksToo]
    have owned : ∀ asked, aim = .begin asked →
        ∀ source, server.strategy.Lists start.descriptions asked source → listings.own source :=
      fun asked same source listed => own source ⟨asked, tokens, same ▸ checks, listed⟩
    refine (obtainTicket_match paired owned parallel).bind fun ticket other _ _ holding => ?_
    exact pursue_match live (concerned _ checks) holding

/-- Sources are opened alike by grants that are the same up to fresh numbers. -/
private theorem derivationId?_renamed {granted others : List Permission}
    (renamed : List.Forall₂ server.strategy.Renamed granted others) :
    Option.Rel server.strategy.SameId (derivationId? granted) (derivationId? others) := by
  unfold derivationId?
  induction renamed with
  | nil => exact .none
  | @cons grant other rest others same _ ih =>
    obtain ⟨id, rfl, sameId⟩ := same
    have reads : Permission.hasScope { grant with resourceId := id } Scope.derivationRead =
        grant.hasScope Scope.derivationRead := rfl
    rw [List.find?_cons, List.find?_cons, reads]
    cases grant.hasScope Scope.derivationRead with
    | true => exact .some sameId
    | false => exact ih

end Server

/-! ## Answers alike -/

namespace Turn

variable {server : Server} {now : Instant} {concerns : String → Prop} {listings : Listings}
  {start : Realm} {pairs : List (String × String)} {turn alone among : Turn}

/-- Whether two turns are answered alike: by tokens that give the same, by the demand of the same
claims, or by the same refusal. Fresh identifiers, tokens and numbers do not count, nor do issuers that
others had written down. -/
inductive AnsweredAlike (server : Server) (listings : Listings) (alone among : Turn) : Prop
  | issued {payload other : AccessToken} {response another : TokenResponse}
      (issues : alone.Issues server payload) (issuesToo : among.Issues server other)
      (answered : alone.answer server = .ok response)
      (answeredToo : among.answer server = .ok another)
      (granted : List.Forall₂ server.strategy.Renamed payload.permissions other.permissions)
      (contract : other.contract = payload.contract)
      (tokenType : another.tokenType = response.tokenType)
      (derivation : Option.Rel server.strategy.SameId response.derivationResourceId
        another.derivationResourceId)
  | told {id other : String} {required another : RequiredClaims}
      (answered : alone.answer server = .error (.refused (.needInfo id required)))
      (answeredToo : among.answer server = .error (.refused (.needInfo other another)))
      (handedOut : alone.handedOut? server = some id)
      (handedOutToo : among.handedOut? server = some other)
      (claimTypes : another.claimTypes = required.claimTypes)
      (derivations : List.Forall₂ (DerivationClaim.Alike listings) required.derivations
        another.derivations)
  | halted {halt : Halt} (answered : alone.answer server = .error halt)
      (answeredToo : among.answer server = .error halt)
      (handedOut : alone.handedOut? server = none) (handedOutToo : among.handedOut? server = none)

theorem AnsweredAlike.of_unambiguous (alike : alone.AnsweredAlike server listings among)
    (unambiguous : listings.Unambiguous) : alone.AnsweredAlike server .none among := by
  cases alike with
  | issued issues issuesToo answered answeredToo granted contract tokenType derivation =>
    exact .issued issues issuesToo answered answeredToo granted contract tokenType derivation
  | told answered answeredToo handedOut handedOutToo claimTypes derivations =>
    exact .told answered answeredToo handedOut handedOutToo claimTypes
      (derivations.imp fun _ _ same => same.of_unambiguous unambiguous)
  | halted answered answeredToo handedOut handedOutToo =>
    exact .halted answered answeredToo handedOut handedOutToo

/-- Either both turns are given a token, or neither is. -/
theorem AnsweredAlike.isOk_eq (alike : alone.AnsweredAlike server listings among) :
    (among.answer server).isOk = (alone.answer server).isOk := by
  cases alike with
  | issued _ _ answered answeredToo =>
    rw [answered, answeredToo]
    rfl
  | told answered answeredToo =>
    rw [answered, answeredToo]
    rfl
  | halted answered answeredToo => rw [answered, answeredToo]

/-- Whether two turns leave parallel realms. If they hand tickets out, those make a pair more. -/
def StayParallel (server : Server) (concerns : String → Prop) (listings : Listings)
    (start : Realm) (pairs : List (String × String)) (alone among : Turn) : Prop :=
  ∃ new : List (String × String), (alone.handedOut? server).toList = new.map (·.1) ∧
    (among.handedOut? server).toList = new.map (·.2) ∧
    start.Parallel concerns listings (pairs ++ new) (alone.left server) (among.left server)

private theorem stayParallel_of_silent (silent : alone.handedOut? server = none)
    (silentToo : among.handedOut? server = none)
    (parallel : start.Parallel concerns listings pairs (alone.left server) (among.left server)) :
    alone.StayParallel server concerns listings start pairs among := by
  refine ⟨[], ?_, ?_, ?_⟩
  · rw [silent]
    rfl
  · rw [silentToo]
    rfl
  · rwa [List.append_nil]

/-! ## From tickets that are weighed alike -/

/-- Turns that weigh their tickets to no end, for the same reason, are answered alike. -/
theorem AnsweredAlike.of_halted {halt : Halt} (ended : (alone.weighing server).outcome = .error halt)
    (endedToo : (among.weighing server).outcome = .error halt) :
    alone.AnsweredAlike server listings among :=
  .halted (of_weighing_error ended).1 (of_weighing_error endedToo).1
    (handedOut?_eq_none (by rw [ended]; exact nofun))
    (handedOut?_eq_none (by rw [endedToo]; exact nofun))

/-- How two turns end that have resolved the same ticket in vain and lack the same: both or neither put
the ticket back. -/
inductive SuspendedAlike (server : Server) (listings : Listings) (ticket : Ticket)
    (alone among : Turn) : Prop
  | silent {halt : Halt} (answered : alone.answer server = .error halt)
      (answeredToo : among.answer server = .error halt)
      (handedOut : alone.handedOut? server = none) (handedOutToo : among.handedOut? server = none)
      (left : (alone.left server = (alone.weighing server).realm ∧
          among.left server = (among.weighing server).realm) ∨
        alone.left server = alone.drawn server ∧ among.left server = among.drawn server)
  | told {expiresAt : Instant} {required another : RequiredClaims}
      (putsBack : alone.PutsBack server ticket expiresAt)
      (putsBackToo : among.PutsBack server ticket expiresAt)
      (answered : alone.answer server =
        .error (.refused (.needInfo (alone.freshId server) required)))
      (answeredToo : among.answer server =
        .error (.refused (.needInfo (among.freshId server) another)))
      (claimTypes : another.claimTypes = required.claimTypes)
      (derivations : List.Forall₂ (DerivationClaim.Alike listings) required.derivations
        another.derivations)
      (left : alone.left server = alone.suspended server ⟨ticket, expiresAt⟩)
      (leftToo : among.left server = among.suspended server ⟨ticket, expiresAt⟩)

theorem suspendedAlike_of_weighing {ticket : Ticket} {missing others : List MissingClaims}
    (ended : (alone.weighing server).outcome = .ok (ticket, .failure missing))
    (endedToo : (among.weighing server).outcome = .ok (ticket, .failure others))
    (sameExpiry : among.now.after? among.realm.tickets.lifetime =
      alone.now.after? alone.realm.tickets.lifetime)
    (alike : List.Forall₂ (MissingClaims.Alike listings) missing others) :
    alone.SuspendedAlike server listings ticket among := by
  have derivations := MissingClaims.filterMap_alike alike
  have helpless : ticket.required = [] ∧ others.filterMap MissingClaims.derivation? = [] ↔
      ticket.required = [] ∧ missing.filterMap MissingClaims.derivation? = [] := by
    rw [← List.length_eq_zero_iff (l := others.filterMap _), ← derivations.length_eq,
      List.length_eq_zero_iff]
  have suspendsToo := suspends_of_weighing endedToo
  -- The first turn decides which of the four ends the second one has.
  cases suspends_of_weighing ended with
  | denied denied answered left =>
    cases suspendsToo with
    | denied _ answeredToo leftToo =>
      exact .silent answered answeredToo (handedOut?_eq_none_of_answer answered fun _ => nofun)
        (handedOut?_eq_none_of_answer answeredToo fun _ => nofun) (.inl ⟨left, leftToo⟩)
    | broken _ helped => exact absurd (helpless.mpr denied) helped
    | undated _ helped => exact absurd (helpless.mpr denied) helped
    | told _ helped => exact absurd (helpless.mpr denied) helped
  | @broken error outage helped answered left =>
    have quiet : server.putOutage = none →
        ∀ id required, Halt.refused error ≠ .refused (.needInfo id required) :=
      fun working => nomatch working.symm.trans outage
    cases suspendsToo with
    | denied denied => exact absurd (helpless.mp denied) helped
    | broken outageToo _ answeredToo leftToo =>
      cases outage.symm.trans outageToo
      exact .silent answered answeredToo (handedOut?_eq_none_of_answer answered quiet)
        (handedOut?_eq_none_of_answer answeredToo quiet) (.inr ⟨left, leftToo⟩)
    | undated working => cases working.symm.trans outage
    | told working => cases working.symm.trans outage
  | undated working helped expiry answered left =>
    cases suspendsToo with
    | denied denied => exact absurd (helpless.mp denied) helped
    | broken outage => cases working.symm.trans outage
    | undated _ _ _ answeredToo leftToo =>
      exact .silent answered answeredToo (handedOut?_eq_none_of_answer answered fun _ => nofun)
        (handedOut?_eq_none_of_answer answeredToo fun _ => nofun) (.inr ⟨left, leftToo⟩)
    | told _ _ _ putsBackToo =>
      cases expiry.symm.trans (sameExpiry.symm.trans putsBackToo.expiry)
  | told working helped expiresAt putsBack answered left =>
    cases suspendsToo with
    | denied denied => exact absurd (helpless.mp denied) helped
    | broken outage => cases working.symm.trans outage
    | undated _ _ expiry => cases expiry.symm.trans (sameExpiry.trans putsBack.expiry)
    | told _ _ _ putsBackToo answeredToo leftToo =>
      cases putsBackToo.expiry.symm.trans (sameExpiry.trans putsBack.expiry)
      exact .told putsBack putsBackToo answered answeredToo rfl derivations left leftToo

/-- Tickets that go into the store at the same instant get the same end of their lives. -/
theorem expiry_of_stems (sameNow : among.now = alone.now)
    (stems : start.Stems concerns (alone.weighing server).realm)
    (stemsToo : start.Stems concerns (among.weighing server).realm) :
    among.now.after? among.realm.tickets.lifetime =
      alone.now.after? alone.realm.tickets.lifetime := by
  rw [sameNow, ← alone.lifetime_weighing server, ← among.lifetime_weighing server,
    stems.lifetime, stemsToo.lifetime]

/-- If one of two turns that weigh the same ticket alike stores that, both do. -/
theorem stored_of_weighed {ticket : Ticket} {resolution another : Resolution}
    (sameNow : among.now = alone.now)
    (ended : (alone.weighing server).outcome = .ok (ticket, resolution))
    (endedToo : (among.weighing server).outcome = .ok (ticket, another))
    (alike : server.strategy.Alike listings resolution another)
    (stems : start.Stems concerns (alone.weighing server).realm)
    (stemsToo : start.Stems concerns (among.weighing server).realm) {id : String}
    (handed : alone.handedOut? server = some id) :
    ∃ other stored, among.handedOut? server = some other ∧
      (alone.left server).tickets.entries.get? id = some stored ∧
      (among.left server).tickets.entries.get? other = some stored := by
  obtain ⟨_, ⟨_, _, failed⟩, _⟩ := handedOut?_eq_some_iff.mp handed
  cases ended.symm.trans failed
  cases alike with
  | failure lacking =>
    cases suspendedAlike_of_weighing ended endedToo (expiry_of_stems sameNow stems stemsToo)
      lacking with
    | silent _ _ silent => cases silent.symm.trans handed
    | told putsBack putsBackToo =>
      cases putsBack.handedOut.symm.trans handed
      exact ⟨_, _, putsBackToo.handedOut, putsBack.present, putsBackToo.present⟩

section Weighed

variable {ticket : Ticket} {resolution another : Resolution}
  (plain : server.contracting = none) (sameNow : among.now = alone.now)
  (ended : (alone.weighing server).outcome = .ok (ticket, resolution))
  (endedToo : (among.weighing server).outcome = .ok (ticket, another))
  (alike : server.strategy.Alike listings resolution another)

include plain sameNow ended endedToo alike

/-- Turns that weigh the same ticket alike, in realms that stem from the same one, are answered
alike. -/
theorem AnsweredAlike.of_weighed (stems : start.Stems concerns (alone.weighing server).realm)
    (stemsToo : start.Stems concerns (among.weighing server).realm) :
    alone.AnsweredAlike server listings among := by
  cases alike with
  | @success granted others renamed =>
    have silent : alone.handedOut? server = none := handedOut?_eq_none (by rw [ended]; exact nofun)
    have silentToo : among.handedOut? server = none :=
      handedOut?_eq_none (by rw [endedToo]; exact nofun)
    have answered := (of_weighing_ok ended).1
    have answeredToo := (of_weighing_ok endedToo).1
    rw [Server.conclude_success plain, Server.run_issue] at answered answeredToo
    rw [sameNow] at answeredToo
    dsimp only at answered answeredToo
    generalize (alone.weighing server).realm = left at answered stems
    generalize (among.weighing server).realm = leftToo at answeredToo stemsToo
    have types : (leftToo.factories.issue server.factory alone.now leftToo.supply
          ⟨others, none⟩).1.map (·.type) =
        (left.factories.issue server.factory alone.now left.supply ⟨granted, none⟩).1.map (·.type) :=
      (stemsToo.factories.issues leftToo.supply start.supply _ ⟨[], none⟩).trans
        (stems.factories.issues left.supply start.supply _ ⟨[], none⟩).symm
    generalize (left.factories.issue _ _ _ _).1 = token at answered types
    generalize (leftToo.factories.issue _ _ _ _).1 = tokenToo at answeredToo types
    cases token with
    | error halt =>
      cases tokenToo <;> cases types
      exact .halted answered answeredToo silent silentToo
    | ok issued =>
      cases tokenToo with
      | error halt => cases types
      | ok issuedToo =>
        exact .issued (issues_of_weighing plain ended answered)
          (issues_of_weighing plain endedToo answeredToo) answered answeredToo renamed rfl
          (Except.ok.inj types) (Server.derivationId?_renamed renamed)
  | failure lacking =>
    cases suspendedAlike_of_weighing ended endedToo (expiry_of_stems sameNow stems stemsToo)
      lacking with
    | silent answered answeredToo silent silentToo =>
      exact .halted answered answeredToo silent silentToo
    | told putsBack putsBackToo answered answeredToo claimTypes derivations =>
      exact .told answered answeredToo putsBack.handedOut putsBackToo.handedOut claimTypes derivations

/-- Where the realms are parallel besides, they stay so. -/
private theorem stayParallel_of_weighed (unmade : ∀ text, concerns text → start.supply.Unmade text)
    (holding : start.ParallelFor concerns listings pairs ticket ticket (alone.weighing server).realm
      (among.weighing server).realm) :
    alone.StayParallel server concerns listings start pairs among := by
  have parallel := holding.parallel
  cases alike with
  | success renamed =>
    have left := (of_weighing_ok ended).2
    have leftToo := (of_weighing_ok endedToo).2
    rw [Server.conclude_success plain, Server.run_issue] at left leftToo
    rw [sameNow] at leftToo
    refine stayParallel_of_silent (handedOut?_eq_none (by rw [ended]; exact nofun))
      (handedOut?_eq_none (by rw [endedToo]; exact nofun)) ?_
    rw [left, leftToo]
    exact parallel.issue unmade server.factory _ _
  | failure lacking =>
    cases suspendedAlike_of_weighing ended endedToo
      (expiry_of_stems sameNow parallel.stems parallel.stemsToo) lacking with
    | silent _ _ silent silentToo left =>
      refine stayParallel_of_silent silent silentToo ?_
      rcases left with ⟨left, leftToo⟩ | ⟨left, leftToo⟩
      · rwa [left, leftToo]
      · rw [left, leftToo]
        exact parallel.draw (Nat.le_succ _) (Nat.le_succ _)
    | told putsBack putsBackToo _ _ _ _ left leftToo =>
      refine ⟨[(alone.freshId server, among.freshId server)], ?_, ?_, ?_⟩
      · rw [putsBack.handedOut]
        rfl
      · rw [putsBackToo.handedOut]
        rfl
      · rw [left, leftToo]
        exact parallel.put holding.back

end Weighed

/-- A turn in each of two parallel realms is answered alike and leaves parallel realms. -/
theorem answered_alike (plain : server.contracting = none)
    (unmade : ∀ text, concerns text → start.supply.Unmade text)
    (live : start.factories.NoneExpired concerns alone.now) (sameNow : among.now = alone.now)
    (paired : alone.request.Paired pairs among.request)
    (own : ∀ source, alone.request.Lists server.strategy start.descriptions source →
      listings.own source)
    (concerned : alone.request.PushesOnly concerns)
    (parallel : start.Parallel concerns listings pairs alone.realm among.realm) :
    alone.AnsweredAlike server listings among ∧
      alone.StayParallel server concerns listings start pairs among := by
  have matching : Passage.Match (start.Parallel concerns listings pairs)
      (fun weighed another left after => server.strategy.Alike listings weighed.2 another.2 ∧
        start.ParallelFor concerns listings pairs weighed.1 another.1 left after)
      (alone.weighing server) (among.weighing server) := by
    rw [weighing, weighing, sameNow]
    exact Server.weigh_match paired own live concerned parallel
  cases matching with
  | halts halt ended endedToo left =>
    refine ⟨.of_halted ended endedToo, stayParallel_of_silent
      (handedOut?_eq_none (by rw [ended]; exact nofun))
      (handedOut?_eq_none (by rw [endedToo]; exact nofun)) ?_⟩
    rw [(of_weighing_error ended).2, (of_weighing_error endedToo).2]
    exact left
  | succeeds weighed another ended endedToo related =>
    obtain ⟨ticket, resolution⟩ := weighed
    obtain ⟨other, resolutionToo⟩ := another
    obtain ⟨alike, holding⟩ := related
    obtain rfl : other = ticket := holding.same
    exact ⟨.of_weighed plain sameNow ended endedToo alike holding.parallel.stems
        holding.parallel.stemsToo,
      stayParallel_of_weighed plain sameNow ended endedToo alike unmade holding⟩

end Turn

end UmaGrant
