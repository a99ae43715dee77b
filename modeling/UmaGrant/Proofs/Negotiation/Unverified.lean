import UmaGrant.Proofs.Negotiation.Pursuing
import UmaGrant.Proofs.Negotiation.Turn
/-! # Tokens that prove nothing

The tokens of a request are verified one by one, and what a token proves is added to the ticket before the
next one is verified. So a turn that ends because a token proves nothing has added what the tokens before
it prove, and has asked others as far as that takes. Of the token itself and those after it nothing has
been added.
-/

namespace UmaGrant

/-- A judged ticket collects claims without any question. -/
theorem Strategy.log_showAll_of_judgement {strategy : Strategy}
    (judging : strategy.settlement.method = .judgement) (ticket : Ticket) (shown : List Claims) :
    (strategy.showAll ticket shown).log = [] := by
  have silent : ∀ (ticket : Ticket) (claims : Claims), (strategy.addClaims ticket claims).log = [] := by
    intro ticket claims
    unfold addClaims Settlement.addClaims
    rw [judging]
    cases strategy.codec <;> rfl
  induction shown generalizing ticket with
  | nil => rfl
  | cons claims rest ih =>
    change (strategy.addClaims ticket claims).log ++ (strategy.showAll _ rest).log = []
    rw [silent, ih]
    rfl

namespace Turn

variable {server : Server} {turn : Turn}

/-- A turn that has its ticket, but not all of whose tokens prove something, ends with the error of the
first one that does not. Of the claims it has added to the ticket exactly those that the tokens before it
prove, and beyond what it takes to get the ticket it has asked exactly what that takes: nothing if no token
comes before it, or if tickets are judged. It leaves the realm as it was with the ticket, but for what
verification does to the token factories. -/
theorem unproven_adds {aim : TokenRequest.Aim} {tokens : List ClaimToken} {ticket : Ticket}
    {start : Realm} {error : GrantError} (checks : turn.request.check = .ok ⟨aim, tokens⟩)
    (obtained : (server.obtainTicket turn.now aim).Ends turn.realm (.ok ticket) start)
    (unproven : (server.verifier.verifyAll turn.now tokens turn.realm.factories).1 = .error error) :
    ∃ before failing after shown between, tokens = before ++ failing :: after ∧
      server.verifier.verifyAll turn.now before turn.realm.factories = (.ok shown, between) ∧
      (server.verifier.verify turn.now failing between).1 = .error error ∧
      turn.passage server =
        ⟨.error (.refused error),
          { start with factories := (server.verifier.verify turn.now failing between).2 },
          ((server.obtainTicket turn.now aim).run turn.realm).log ++
            (server.strategy.showAll ticket shown).log⟩ ∧
      (before = [] ∨ server.strategy.settlement.method = .judgement →
        (server.strategy.showAll ticket shown).log = []) := by
  obtain ⟨before, failing, after, shown, between, split, proven, fails, left, claimed⟩ :=
    Verifier.exists_of_verifyAll_error unproven
  refine ⟨before, failing, after, shown, between, split, proven, fails, ?_, ?_⟩
  · have factories := (Server.obtainTicket_ends obtained).2.2
    rw [passage, Server.negotiate_eq, Round.run_bind, Server.run_weigh checks, Round.run_bind,
      obtained.1, obtained.2]
    dsimp only
    rw [Server.pursue, Round.run_bind, Server.run_addTokens, factories, unproven, left, claimed]
    rfl
  · rintro (rfl | judging)
    · cases proven
      rfl
    · exact Strategy.log_showAll_of_judgement judging ticket shown

end Turn

/-! ## A forged badge

A doctor shows a badge and then another one, which is forged. -/

namespace Badge

def doctor : String := "https://doctor.example/me"

def policies : PolicySet where
  engine := .ofRules [⟨some (some doctor), none, none, .ok .activePermission⟩]
  vocabulary := .odrl

def claims : Claims := Dict.empty.insert ClaimType.webId (.string doctor)

def server : Server where
  strategy := ⟨⟨.elimination, .policy policies⟩, none⟩
  verifier := .known [("badge", .ok claims)] (.verification "Unknown token")
  factory := "tokens"
  contracting := none
  putOutage := none
  takeOutage := none

def realm : Realm where
  tickets := .empty Tickets.defaultLifetime
  issuers := .empty
  contracts := .empty
  descriptions := .empty
  factories := .empty
  supply := ⟨0⟩

def tokens : List ClaimToken :=
  [⟨"badge", ClaimFormat.bareWebId⟩, ⟨"forged badge", ClaimFormat.bareWebId⟩]

def showing : Turn :=
  ⟨⟨0⟩, { TokenRequest.forPermissions [.of "record" [Scope.read]] with
    claimToken := some (.many tokens) }, realm⟩

/-- What the policy engine is asked about the badge. -/
def question : PolicyRequest := ⟨some doctor, "record", Vocabulary.odrlBase ++ "read", claims⟩

end Badge

namespace Turn

/-- The turn ends with the error of the forged badge. -/
theorem unproven_adds_badge :
    (Badge.showing.passage Badge.server).outcome =
      .error (.refused (.verification "Unknown token")) := by
  obtain ⟨before, failing, after, shown, between, -, -, -, passage, -⟩ :=
    @unproven_adds Badge.server Badge.showing (.begin [.of "record" [Scope.read]]) Badge.tokens _ _ _
      rfl ⟨rfl, rfl⟩ rfl
  rw [passage]

/-- But the policy engine has been asked about the badge before the forged one was verified. -/
theorem forged_after_question :
    (Badge.showing.passage Badge.server).outcome =
        .error (.refused (.verification "Unknown token")) ∧
      ((Badge.server.obtainTicket ⟨0⟩ (.begin [.of "record" [Scope.read]])).run Badge.realm).log = [] ∧
      (Badge.showing.passage Badge.server).log = [.verdict Badge.question] := by
  refine ⟨?_, rfl, ?_⟩
  · rfl
  · rfl

end Turn

end UmaGrant
