import UmaGrant.Proofs.Negotiation.Alike
import UmaGrant.Proofs.Negotiation.Recipe
/-! # Tokens one by one

A client may push its claim tokens one by one, each with the ticket that the round before has handed
out, or all of them in one round. The last round of a relay and the single one are answered alike: in
between the ticket lies in the store, and nothing of it gets lost there. It may expire there, though,
and then the relay fails, while the single round does not depend on any ticket being kept. And a claim token
may expire between the round in which it is pushed and the last one, and then only the single round fails.
-/

namespace UmaGrant

/-! ## Pursuing tickets by verdicts -/

/-- Whether a realm is as another one was in all that tokens and tickets are judged by. -/
structure Realm.Resembles (start realm : Realm) : Prop where
  stems : start.Stems (fun _ => True) realm
  issuers : realm.issuers = start.issuers

/-- Such realms give the same verdicts on tokens, and they still resemble one another after tokens that
prove something. -/
theorem Realm.Resembles.verifyAll {start realm : Realm} (resembles : start.Resembles realm)
    {verifier : Verifier} {now : Instant} {verdict : ClaimToken → Except GrantError Claims}
    {tokens : List ClaimToken}
    (judged : ∀ token ∈ tokens, (verifier.verify now token start.factories).1 = verdict token) :
    ∃ factories, verifier.verifyAll now tokens realm.factories = (tokens.mapM verdict, factories) ∧
      ∀ shown, tokens.mapM verdict = .ok shown → start.Resembles { realm with factories } := by
  induction tokens generalizing realm with
  | nil => exact ⟨realm.factories, rfl, fun _ _ => resembles⟩
  | cons token rest ih =>
    obtain ⟨judgedFirst, judgedRest⟩ := List.forall_mem_cons.mp judged
    have answer : (verifier.verify now token realm.factories).1 = verdict token :=
      ((resembles.stems.verify token verifier).1 trivial).trans judgedFirst
    rw [List.mapM_cons]
    cases proven : verdict token with
    | error error =>
      rw [proven] at answer
      exact ⟨_, Verifier.verifyAll_error answer, nofun⟩
    | ok claims =>
      rw [proven] at answer
      have stems := (resembles.stems.verify token verifier).2 (.inr ⟨claims, answer⟩)
      obtain ⟨factories, more, after⟩ := ih ⟨stems, resembles.issuers⟩ judgedRest
      refine ⟨factories, ?_, ?_⟩
      · rw [Verifier.verifyAll_ok answer, more]
        cases rest.mapM verdict <;> rfl
      · cases proofs : rest.mapM verdict with
        | error error => exact nofun
        | ok further => exact fun _ _ => after further proofs

/-- How a ticket is pursued, by the verdicts on the tokens and in a realm that resembles another one. -/
inductive Server.Pursues (server : Server) (verdict : ClaimToken → Except GrantError Claims)
    (start : Realm) (supply : Supply) (ticket : Ticket) (tokens : List ClaimToken)
    (outcome : Except Halt (Ticket × Resolution)) (after : Realm) : Prop
  | unproven {error : GrantError} (failed : tokens.mapM verdict = .error error)
      (ended : outcome = .error (.refused error))
  | unresolved {shown : List Claims} {error : GrantError} (proven : tokens.mapM verdict = .ok shown)
      (failed : (server.strategy.resolve start.descriptions start.issuers supply
        (server.strategy.addAll ticket shown)).outcome = .error error)
      (ended : outcome = .error (.refused error))
  | resolved {shown : List Claims} {resolution : Resolution} {left : Supply}
      (proven : tokens.mapM verdict = .ok shown)
      (resolves : (server.strategy.resolve start.descriptions start.issuers supply
        (server.strategy.addAll ticket shown)).outcome = .ok (resolution, left))
      (ended : outcome = .ok (server.strategy.addAll ticket shown, resolution))
      (resembles : start.Resembles after)

namespace Server

variable {server : Server} {verdict : ClaimToken → Except GrantError Claims} {start realm : Realm}
  {now : Instant} {supply other : Supply} {ticket : Ticket} {tokens before : List ClaimToken}
  {shown : List Claims} {outcome : Except Halt (Ticket × Resolution)} {after : Realm}

theorem pursues_run (resembles : start.Resembles realm) (ticket : Ticket)
    (judged : ∀ token ∈ tokens, (server.verifier.verify now token start.factories).1 = verdict token) :
    server.Pursues verdict start realm.supply ticket tokens
      ((server.pursue now ticket tokens).run realm).outcome
      ((server.pursue now ticket tokens).run realm).realm := by
  obtain ⟨factories, verified, keeps⟩ := resembles.verifyAll judged
  cases proven : tokens.mapM verdict with
  | error error =>
    rw [proven] at verified
    exact .unproven proven (pursue_unproven verified).1
  | ok shown =>
    rw [proven] at verified
    have again := keeps shown proven
    cases resolved : (server.strategy.resolve start.descriptions start.issuers realm.supply
        (server.strategy.addAll ticket shown)).outcome with
    | error error =>
      have failed := resolved
      rw [← resembles.stems.descriptions, ← resembles.issuers] at failed
      exact .unresolved proven resolved (pursue_unresolved verified failed).1
    | ok decided =>
      obtain ⟨resolution, left⟩ := decided
      have decides := resolved
      rw [← resembles.stems.descriptions, ← resembles.issuers] at decides
      obtain ⟨ended, leaves⟩ := pursue_ok verified decides
      refine .resolved proven resolved ended ?_
      rw [leaves]
      exact ⟨{ again.stems with
        supply := Nat.le_trans again.stems.supply (Strategy.supply_resolve decides) }, again.issuers⟩

/-- A ticket that has been shown what tokens prove is as good as those tokens. -/
theorem Pursues.prepend (proven : before.mapM verdict = .ok shown)
    (pursues : server.Pursues verdict start supply (server.strategy.addAll ticket shown) tokens
      outcome after) :
    server.Pursues verdict start supply ticket (before ++ tokens) outcome after := by
  have both : (before ++ tokens).mapM verdict = (tokens.mapM verdict).map (shown ++ ·) := by
    rw [List.mapM_append, proven]
    cases tokens.mapM verdict <;> rfl
  have grown : ∀ more, server.strategy.addAll (server.strategy.addAll ticket shown) more =
      server.strategy.addAll ticket (shown ++ more) := fun _ => List.foldl_append.symm
  cases pursues with
  | unproven failed ended =>
    rw [failed] at both
    exact .unproven both ended
  | unresolved more failed ended =>
    rw [more] at both
    rw [grown] at failed
    exact .unresolved both failed ended
  | resolved more resolves ended resembles =>
    rw [more] at both
    rw [grown] at resolves ended
    exact .resolved both resolves ended resembles

/-- Where the same ticket is pursued by the same tokens, it comes to the same, whatever numbers are
drawn. -/
theorem Pursues.alike {outcomeToo : Except Halt (Ticket × Resolution)} {afterToo : Realm}
    (pursues : server.Pursues verdict start supply ticket tokens outcome after)
    (pursuesToo : server.Pursues verdict start other ticket tokens outcomeToo afterToo) :
    (∃ halt, outcome = .error halt ∧ outcomeToo = .error halt) ∨
      ∃ grown resolution another, outcome = .ok (grown, resolution) ∧
        outcomeToo = .ok (grown, another) ∧ server.strategy.Alike .none resolution another ∧
        start.Resembles after ∧ start.Resembles afterToo := by
  have renumbered := fun shown => server.strategy.resolve_renumbered start.descriptions start.issuers
    (server.strategy.addAll ticket shown) supply other
  cases pursues with
  | unproven failed ended =>
    cases pursuesToo with
    | unproven failedToo endedToo =>
      cases failed.symm.trans failedToo
      exact .inl ⟨_, ended, endedToo⟩
    | unresolved proven => cases failed.symm.trans proven
    | resolved proven => cases failed.symm.trans proven
  | @unresolved shown _ proven failed ended =>
    cases pursuesToo with
    | unproven failedToo => cases proven.symm.trans failedToo
    | unresolved provenToo failedToo endedToo =>
      cases proven.symm.trans provenToo
      rcases renumbered shown with ⟨error, fails, failsToo⟩ | ⟨_, _, _, _, resolves, _⟩
      · cases failed.symm.trans fails
        cases failedToo.symm.trans failsToo
        exact .inl ⟨_, ended, endedToo⟩
      · cases failed.symm.trans resolves
    | resolved provenToo resolvesToo =>
      cases proven.symm.trans provenToo
      rcases renumbered shown with ⟨error, _, failsToo⟩ | ⟨_, _, _, _, resolves, _⟩
      · cases resolvesToo.symm.trans failsToo
      · cases failed.symm.trans resolves
  | @resolved shown _ _ proven resolves ended resembles =>
    cases pursuesToo with
    | unproven failedToo => cases proven.symm.trans failedToo
    | unresolved provenToo failedToo =>
      cases proven.symm.trans provenToo
      rcases renumbered shown with ⟨error, fails, _⟩ | ⟨_, _, _, _, _, resolvesToo, _⟩
      · cases resolves.symm.trans fails
      · cases failedToo.symm.trans resolvesToo
    | resolved provenToo resolvesToo endedToo resemblesToo =>
      cases proven.symm.trans provenToo
      rcases renumbered shown with ⟨error, fails, _⟩ | ⟨_, _, _, _, known, knownToo, alike⟩
      · cases resolves.symm.trans fails
      · cases resolves.symm.trans known
        cases resolvesToo.symm.trans knownToo
        exact .inr ⟨_, _, _, ended, endedToo, alike, resembles, resemblesToo⟩

end Server

/-! ## Relays -/

/-- Whether a turn finds the ticket in the store that it names, if it names one. -/
def Turn.Finds (server : Server) (turn : Turn) : Prop :=
  ∀ id, turn.request.named? = some id → server.takeOutage = none ∧ turn.takes id = true

/-- Turns of a client that pushes tokens one by one, up to a last turn. Each turn after the first one
goes on with the ticket that the one before has handed out, in the realm that it has left. The verdicts
on the tokens are those of the realm of the first turn. -/
inductive Relay (server : Server) (verdict : ClaimToken → Except GrantError Claims)
    (aim : TokenRequest.Aim) (first : Turn) : List ClaimToken → Turn → Prop
  | start {token : ClaimToken} (checks : first.request.check = .ok ⟨aim, [token]⟩)
      (judged : (server.verifier.verify first.now token first.realm.factories).1 = verdict token) :
      Relay server verdict aim first [token] first
  | next {tokens : List ClaimToken} {last turn : Turn} {id : String} {token : ClaimToken}
      (relay : Relay server verdict aim first tokens last)
      (handedOut : last.handedOut? server = some id) (realm : turn.realm = last.left server)
      (checks : turn.request.check = .ok ⟨.resume id, [token]⟩)
      (judged : (server.verifier.verify turn.now token first.realm.factories).1 = verdict token) :
      Relay server verdict aim first (tokens ++ [token]) turn

/-- A turn that gets to weigh its ticket has found it. -/
theorem Turn.finds_of_weighed {server : Server} {turn : Turn} {weighed : Ticket × Resolution}
    (ended : (turn.weighing server).outcome = .ok weighed) : turn.Finds server := by
  intro id named
  obtain ⟨tokens, passes⟩ := TokenRequest.named?_eq_some_iff.mp named
  obtain ⟨checked, start, checks, obtained, _⟩ := Server.weigh_ends ⟨ended, rfl⟩
  cases passes.symm.trans checks
  cases obtained with
  | taken working found live => exact ⟨working, Turn.takes_iff.mpr ⟨named, _, found, live⟩⟩

namespace Relay

variable {server : Server} {verdict : ClaimToken → Except GrantError Claims}
  {aim : TokenRequest.Aim} {first last whole : Turn} {tokens : List ClaimToken} {ticket : Ticket}
  {opened : Realm}

private theorem pursues_weighing {turn : Turn} {start between : Realm}
    (checks : turn.request.check = .ok ⟨aim, tokens⟩)
    (obtained : (server.obtainTicket turn.now aim).Ends turn.realm (.ok ticket) between)
    (resembles : start.Resembles between)
    (judged : ∀ token ∈ tokens,
      (server.verifier.verify turn.now token start.factories).1 = verdict token) :
    server.Pursues verdict start between.supply ticket tokens (turn.weighing server).outcome
      (turn.weighing server).realm := by
  obtain ⟨outcome, after⟩ := Server.weigh_of_obtained checks obtained ⟨rfl, rfl⟩
  rw [Turn.weighing, outcome, after]
  exact Server.pursues_run resembles ticket judged

/-- A turn gets the ticket that another one with the same aim gets in the same realm. -/
private theorem obtained_again
    (obtained : (server.obtainTicket first.now aim).Ends first.realm (.ok ticket) opened)
    (checks : whole.request.check = .ok ⟨aim, tokens⟩) (finds : whole.Finds server)
    (realm : whole.realm = first.realm) :
    (server.obtainTicket whole.now aim).Ends whole.realm (.ok ticket) opened := by
  rw [realm]
  cases aim with
  | begin asked => exact obtained
  | resume id =>
    obtain ⟨source, _⟩ := Server.obtainTicket_ends obtained
    cases source with
    | taken working found live =>
      obtain ⟨_, stored, present, liveToo⟩ := Turn.takes_iff.mp
        (finds id (TokenRequest.named?_eq_some_iff.mpr ⟨tokens, checks⟩)).2
      rw [realm] at present
      cases found.symm.trans present
      obtain ⟨_, rfl⟩ := obtained
      rw [(Server.obtainTicket_resume working found live).2]
      exact Server.obtainTicket_resume working found liveToo

/-- The first turn of a relay gets its ticket, or else it is the only one. -/
theorem obtains (relay : Relay server verdict aim first tokens last) :
    (∃ ticket opened, (server.obtainTicket first.now aim).Ends first.realm (.ok ticket) opened) ∨
      last.realm = first.realm ∧ last.request.check = .ok ⟨aim, tokens⟩ ∧
        ∃ halt, (last.weighing server).outcome = .error halt := by
  induction relay with
  | start checks _ =>
    cases ended : ((server.obtainTicket first.now aim).run first.realm).outcome with
    | ok ticket => exact .inl ⟨ticket, _, ended, rfl⟩
    | error halt =>
      refine .inr ⟨rfl, checks, halt, ?_⟩
      rw [Turn.weighing, Server.run_weigh checks, Round.run_bind, ended]
  | next _ handed _ _ _ ih =>
    rcases ih with obtained | ⟨_, _, halt, failed⟩
    · exact .inl obtained
    · obtain ⟨_, ⟨_, _, weighed⟩, _⟩ := Turn.handedOut?_eq_some_iff.mp handed
      cases failed.symm.trans weighed

/-- In the last turn of a relay the first ticket is pursued by all tokens, just as if they had been
pushed at once. -/
theorem pursues (relay : Relay server verdict aim first tokens last)
    (obtained : (server.obtainTicket first.now aim).Ends first.realm (.ok ticket) opened)
    (finds : last.Finds server) :
    ∃ supply, server.Pursues verdict opened supply ticket tokens (last.weighing server).outcome
      (last.weighing server).realm := by
  have factories : opened.factories = first.realm.factories := (Server.obtainTicket_ends obtained).2.2
  induction relay with
  | start checks judged =>
    exact ⟨_, pursues_weighing checks obtained ⟨.refl _ _, rfl⟩
      (List.forall_mem_singleton.mpr (factories ▸ judged))⟩
  | @next tokens last turn id token relay handed realm checks judged ih =>
    obtain ⟨grown, missing, expiresAt, weighed, rfl, putsBack, _, left⟩ :=
      Turn.told_of_handedOut handed
    obtain ⟨_, pursued⟩ := ih (Turn.finds_of_weighed weighed)
    cases pursued with
    | unproven _ ended => cases ended.symm.trans weighed
    | unresolved _ _ ended => cases ended.symm.trans weighed
    | resolved proven _ ended resembles =>
      cases ended.symm.trans weighed
      -- The turn before has stored the ticket with all that was shown to it, and this one takes it.
      obtain ⟨taking, takes⟩ := finds _ (TokenRequest.named?_eq_some_iff.mpr ⟨_, checks⟩)
      obtain ⟨_, stored, found, live⟩ := Turn.takes_iff.mp takes
      have present := putsBack.present
      rw [← realm, found] at present
      cases present
      have resumed := Server.obtainTicket_resume taking found live
      have goesOn : opened.Resembles
          { turn.realm with
            tickets := (turn.realm.tickets.take turn.now (last.freshId server)).2 } := by
        rw [realm, left]
        exact ⟨{ resembles.stems with
          supply := Nat.le_succ_of_le resembles.stems.supply }, resembles.issuers⟩
      exact ⟨_, (pursues_weighing checks resumed goesOn
        (List.forall_mem_singleton.mpr (factories ▸ judged))).prepend proven⟩

/-- The last turn of a relay and a single turn with all tokens weigh the same ticket alike, or both end
for the same reason before that. -/
private theorem weighed_alike (relay : Relay server verdict aim first tokens last)
    (finds : last.Finds server) (realm : whole.realm = first.realm) (sameNow : whole.now = last.now)
    (checks : whole.request.check = .ok ⟨aim, tokens⟩) (findsToo : whole.Finds server)
    (judged : ∀ token ∈ tokens,
      (server.verifier.verify whole.now token first.realm.factories).1 = verdict token) :
    (∃ halt, (last.weighing server).outcome = .error halt ∧
        (whole.weighing server).outcome = .error halt) ∨
      ∃ opened grown resolution another,
        (last.weighing server).outcome = .ok (grown, resolution) ∧
        (whole.weighing server).outcome = .ok (grown, another) ∧
        server.strategy.Alike .none resolution another ∧
        Realm.Resembles opened (last.weighing server).realm ∧
        Realm.Resembles opened (whole.weighing server).realm := by
  rcases relay.obtains with ⟨ticket, opened, obtained⟩ | ⟨sameRealm, only, halt, ended⟩
  · have factories := (Server.obtainTicket_ends obtained).2.2
    obtain ⟨_, pursued⟩ := relay.pursues obtained finds
    have pursuedToo := pursues_weighing checks (obtained_again obtained checks findsToo realm)
      ⟨.refl _ _, rfl⟩ (factories ▸ judged)
    exact (pursued.alike pursuedToo).imp_right fun alike => ⟨opened, alike⟩
  · refine .inl ⟨halt, ended, ?_⟩
    rw [Turn.weighing, Server.run_weigh only] at ended
    rw [Turn.weighing, Server.run_weigh checks, realm, sameNow, ← sameRealm, ended]

/-- Whether tokens are pushed one by one or all at once does not matter. The last turn of a relay and a
single turn with all tokens are answered alike, and if they hand out tickets, the same ticket is stored
under both identifiers. All this holds as long as the last turn finds its ticket in the store, and so
does the single turn if it names one, and as long as each token is judged in the single turn as it was in its
own: an access token, for one, must not have expired since. -/
theorem answeredAlike_at_once (plain : server.contracting = none)
    (relay : Relay server verdict aim first tokens last) (finds : last.Finds server)
    (realm : whole.realm = first.realm) (sameNow : whole.now = last.now)
    (checks : whole.request.check = .ok ⟨aim, tokens⟩) (findsToo : whole.Finds server)
    (judged : ∀ token ∈ tokens,
      (server.verifier.verify whole.now token first.realm.factories).1 = verdict token) :
    last.AnsweredAlike server .none whole ∧
      ∀ id, last.handedOut? server = some id → ∃ other stored,
        whole.handedOut? server = some other ∧
        (last.left server).tickets.entries.get? id = some stored ∧
        (whole.left server).tickets.entries.get? other = some stored := by
  rcases relay.weighed_alike finds realm sameNow checks findsToo judged with
    ⟨halt, ended, endedToo⟩ |
    ⟨opened, grown, resolution, another, ended, endedToo, alike, resembles, resemblesToo⟩
  · refine ⟨.of_halted ended endedToo, fun id handed => ?_⟩
    obtain ⟨_, ⟨_, _, weighed⟩, _⟩ := Turn.handedOut?_eq_some_iff.mp handed
    cases ended.symm.trans weighed
  · exact ⟨.of_weighed plain sameNow ended endedToo alike resembles.stems resemblesToo.stems,
      fun id => Turn.stored_of_weighed sameNow ended endedToo alike resembles.stems
        resemblesToo.stems⟩

end Relay

/-! ## Readers who take their time -/

namespace Report

/-- The reader shows its WebID and is sent for a grant on the source. -/
def introducing : Turn :=
  ⟨⟨0⟩, (TokenRequest.forPermissions [.of "report" [Scope.read]]).push ⟨reader, ClaimFormat.bareWebId⟩,
    realm⟩

def upstreamGrant : ClaimToken := ⟨"upstream grant", ClaimFormat.accessToken⟩

/-- It comes back with that. -/
def returning (now : Instant) : Turn :=
  ⟨now, (TokenRequest.forTicket (Fresh.identifier 0)).push upstreamGrant, introducing.left guarding⟩

/-- Or it shows both in one round. -/
def together (now : Instant) : Turn := ⟨now, introducing.request.push upstreamGrant, realm⟩

def verdict (token : ClaimToken) : Except GrantError Claims :=
  (guarding.verifier.verify ⟨0⟩ token realm.factories).1

theorem relay_returning (now : Instant) :
    Relay guarding verdict (.begin [.of "report" [Scope.read]]) introducing
      ([⟨reader, ClaimFormat.bareWebId⟩] ++ [upstreamGrant]) (returning now) :=
  .next (.start rfl rfl) (rfl : introducing.handedOut? guarding = some (Fresh.identifier 0)) rfl rfl rfl

/-! Another reader has a token for the source that is good for ten seconds. It shows this at once and its WebID
after twenty seconds. -/

def briefTable : ReferenceTokens where
  lifetime := Lifetime.seconds 10
  entries := Dict.empty.insert (Fresh.credential 9)
    ⟨⟨[.of "upstream" [Scope.derivationRead]], none⟩, ⟨Lifetime.seconds 10⟩⟩

def briefGrant : ClaimToken := ⟨Fresh.credential 9, ClaimFormat.accessToken⟩

/-- Takes the tokens of that table. -/
def redeeming : Server :=
  { guarding with
    verifier := .byFormat
      [(ClaimFormat.bareWebId, .trusting), (ClaimFormat.accessToken, .accessTokens "upstream")] }

def briefOpening : Turn where
  now := ⟨0⟩
  request := (TokenRequest.forPermissions [.of "report" [Scope.read]]).push briefGrant
  realm := { realm with factories := realm.factories.insert "upstream" (.reference briefTable) }

def briefReturning : Turn where
  now := ⟨Lifetime.seconds 20⟩
  request := (TokenRequest.forTicket (Fresh.identifier 0)).push ⟨reader, ClaimFormat.bareWebId⟩
  realm := briefOpening.left redeeming

/-- Both in one round, after twenty seconds. -/
def briefTogether : Turn where
  now := ⟨Lifetime.seconds 20⟩
  request := briefOpening.request.push ⟨reader, ClaimFormat.bareWebId⟩
  realm := briefOpening.realm

def briefVerdict (token : ClaimToken) : Except GrantError Claims :=
  (redeeming.verifier.verify ⟨0⟩ token briefOpening.realm.factories).1

theorem relay_briefReturning :
    Relay redeeming briefVerdict (.begin [.of "report" [Scope.read]]) briefOpening
      ([briefGrant] ++ [⟨reader, ClaimFormat.bareWebId⟩]) briefReturning :=
  .next (.start rfl rfl) (rfl : briefOpening.handedOut? redeeming = some (Fresh.identifier 0)) rfl rfl rfl

end Report

namespace Relay

theorem answeredAlike_at_once_report :
    (Report.returning ⟨0⟩).AnsweredAlike Report.guarding .none (Report.together ⟨0⟩) := by
  refine (answeredAlike_at_once rfl (Report.relay_returning ⟨0⟩) ?_
    (rfl : (Report.together ⟨0⟩).realm = _) rfl rfl ?_ fun _ _ => rfl).1
  · intro id named
    cases named
    exact ⟨rfl, rfl⟩
  · exact nofun

/-- Half an hour later the ticket of the first reader has expired, while both tokens at once would still get it
the report. The second reader gets the report token by token, but not by both at once, as one of them has
expired by then. -/
theorem late_return_fails :
    (let asked := [.of "report" [Scope.read]]
      let tokens := [⟨Report.reader, ClaimFormat.bareWebId⟩] ++ [Report.upstreamGrant]
      let late := Report.returning ⟨Tickets.defaultLifetime⟩
      let whole := Report.together ⟨Tickets.defaultLifetime⟩
      Relay Report.guarding Report.verdict (.begin asked) Report.introducing tokens late ∧
        whole.realm = Report.introducing.realm ∧ whole.now = late.now ∧
        whole.request.check = .ok ⟨.begin asked, tokens⟩ ∧
        late.answer Report.guarding = .error (.refused Server.invalidTicket) ∧
        (∃ response, whole.answer Report.guarding = .ok response) ∧
        ¬ late.AnsweredAlike Report.guarding .none whole) ∧
    let asked := [.of "report" [Scope.read]]
    let tokens := [Report.briefGrant] ++ [⟨Report.reader, ClaimFormat.bareWebId⟩]
    let late := Report.briefReturning
    let whole := Report.briefTogether
    Relay Report.redeeming Report.briefVerdict (.begin asked) Report.briefOpening tokens late ∧
      late.Finds Report.redeeming ∧ whole.realm = Report.briefOpening.realm ∧ whole.now = late.now ∧
      whole.request.check = .ok ⟨.begin asked, tokens⟩ ∧ whole.Finds Report.redeeming ∧
      (∃ response, late.answer Report.redeeming = .ok response) ∧
      whole.answer Report.redeeming = .error (.refused (.verification "Access token expired")) ∧
      ¬ late.AnsweredAlike Report.redeeming .none whole := by
  constructor
  · intro asked tokens late whole
    have fails : late.answer Report.guarding = .error (.refused Server.invalidTicket) := rfl
    obtain ⟨response, passes⟩ : ∃ response, whole.answer Report.guarding = .ok response := ⟨_, rfl⟩
    refine ⟨Report.relay_returning _, rfl, rfl, rfl, fails, ⟨response, passes⟩, fun alike => ?_⟩
    have same := alike.isOk_eq
    rw [fails, passes] at same
    cases same
  · intro asked tokens late whole
    have fails : whole.answer Report.redeeming =
        .error (.refused (.verification "Access token expired")) := rfl
    obtain ⟨response, passes⟩ : ∃ response, late.answer Report.redeeming = .ok response := ⟨_, rfl⟩
    have finds : late.Finds Report.redeeming := by
      intro id named
      cases named
      exact ⟨rfl, rfl⟩
    refine ⟨Report.relay_briefReturning, finds, rfl, rfl, rfl, nofun, ⟨response, passes⟩, fails,
      fun alike => ?_⟩
    have same := alike.isOk_eq
    rw [fails, passes] at same
    cases same

end Relay

end UmaGrant
