import UmaGrant.Proofs.Authorizer.Restriction
import UmaGrant.Proofs.Coverage
import UmaGrant.Proofs.Strategy.Elimination
/-! # Credentials suffice

An authorizer says in advance which claims would do, and decides later on the claims that are shown.
Whoever shows what an alternative asks for is given everything that the alternative is for. The proof
follows the tree of the authorizer: both questions are split and routed alike, so what remains is that
a policy engine, asked about a WebID alone, answers as it does when it sees all claims.
-/

namespace UmaGrant

/-- Whether the verdicts of a policy engine depend on nothing but subject, resource and action. -/
def PolicyEngine.IgnoresClaims (engine : PolicyEngine) : Prop :=
  ∀ first second : PolicyRequest, first.subject = second.subject →
    first.resource = second.resource → first.action = second.action →
    engine.judge first = engine.judge second

theorem PolicyEngine.ofRules_ignoresClaims (rules : List PolicyRule) :
    (PolicyEngine.ofRules rules).IgnoresClaims := by
  intro first second subject resource action
  have about : ∀ rule : PolicyRule, rule.isAbout first = rule.isAbout second := fun rule => by
    simp only [PolicyRule.isAbout, subject, resource, action]
  simp only [PolicyEngine.ofRules, about]

/-- Whether a decision is made, and gives everything that is asked for. -/
def Consult.Covers (decision : Consult (List Permission)) (asked : List Permission) : Prop :=
  ∃ granted, decision.outcome = .ok granted ∧ ∀ wanted ∈ asked, covers granted wanted = true

namespace Consult

variable {asked : List Permission}

theorem covers_pure (asked : List Permission) :
    Consult.Covers (pure asked : Consult (List Permission)) asked :=
  ⟨asked, rfl, fun _ member => Permission.covers_of_mem member⟩

end Consult

/-! ## Policies -/

namespace PolicySet

variable {policies : PolicySet} {claims other : Claims} {asked granted : List Permission}

private theorem outcome_ask (ignores : policies.engine.IgnoresClaims)
    (same : claims.text? ClaimType.webId = other.text? ClaimType.webId) (permission : Permission)
    (action : String) :
    (policies.engine.ask (request claims permission action)).outcome =
      (policies.engine.ask (request other permission action)).outcome :=
  ignores _ _ same rfl rfl

private theorem outcome_grantScopes (ignores : policies.engine.IgnoresClaims)
    (same : claims.text? ClaimType.webId = other.text? ClaimType.webId)
    (permission granted : Permission) (scopes : List String) :
    (policies.grantScopes claims permission granted scopes).outcome =
      (policies.grantScopes other permission granted scopes).outcome := by
  induction scopes generalizing granted with
  | nil => rfl
  | cons scope rest ih =>
    cases known : policies.vocabulary.action? scope with
    | none => simp only [grantScopes, known, ih]
    | some action =>
      simp only [grantScopes, known, Consult.outcome_bind, outcome_ask ignores same, ih]

/-- Such an engine decides alike on claims that show the same subject. -/
theorem outcome_decideAll (ignores : policies.engine.IgnoresClaims)
    (same : claims.text? ClaimType.webId = other.text? ClaimType.webId) (asked : List Permission) :
    (policies.decideAll claims asked).outcome = (policies.decideAll other asked).outcome := by
  induction asked with
  | nil => rfl
  | cons permission rest ih =>
    simp only [decideAll, decide, Consult.outcome_bind, outcome_grantScopes ignores same, ih]

/-- Grants that are full, one by one, cover everything. -/
private theorem covers_of_isFullGrant
    (decided : (policies.decideAll claims asked).outcome = .ok granted)
    (full : ((granted.zip asked).all fun pair => isFullGrant pair.1 pair.2) = true) :
    ∀ wanted ∈ asked, covers granted wanted = true := by
  induction asked generalizing granted with
  | nil => exact fun _ member => absurd member List.not_mem_nil
  | cons permission rest ih =>
    simp only [decideAll, Consult.bind_outcome_eq_ok_iff, Consult.outcome_pure, Except.ok.injEq]
      at decided
    obtain ⟨first, decidedFirst, others, decidedOthers, rfl⟩ := decided
    rw [List.zip_cons_cons, List.all_cons, Bool.and_eq_true] at full
    intro wanted member
    rcases List.mem_cons.mp member with rfl | member
    · exact Permission.covers_of_hasScope List.mem_cons_self (decide_restricts decidedFirst).1
        (List.all_eq_true.mp full.1)
    · exact covers_mono (List.subset_cons_self _ _) (ih decidedOthers full.2 wanted member)

/-- A WebID that is admitted when it is asked about alone is given everything, whatever else has been
shown. -/
theorem covers_of_admits (ignores : policies.engine.IgnoresClaims) {webId : Json}
    (shown : claims.get? ClaimType.webId = some webId)
    (admitted : (policies.admits asked webId).value = true) :
    (policies.decideAll claims asked).Covers asked := by
  have same : claims.text? ClaimType.webId =
      Claims.text? (Dict.empty.insert ClaimType.webId webId) ClaimType.webId := by
    rw [Claims.text?, Claims.text?, shown, Dict.get?_insert_same]
  unfold admits at admitted
  dsimp only at admitted
  cases alone : (policies.decideAll (Dict.empty.insert ClaimType.webId webId) asked).outcome with
  | error error =>
    rw [alone] at admitted
    cases admitted
  | ok granted =>
    rw [alone] at admitted
    exact ⟨granted, (outcome_decideAll ignores same asked).trans alone,
      covers_of_isFullGrant alone admitted⟩

end PolicySet

/-! ## Trees of authorizers -/

namespace Authorizer

variable {descriptions : Descriptions} {claims : Claims} {asked shared guarded : List Permission}
  {known : Option (List String)} {alternatives : List Requirements} {alternative : Requirements}

mutual

/-- Whether an authorizer decides by itself, down to its last part, and no policy engine in it looks
at more claims than the subject. -/
def IgnoresClaims : Authorizer → Prop
  | everyone | nobody | webIds _ => True
  | policy policies => policies.engine.IgnoresClaims
  | publicNamespaces _ inner => IgnoresClaims inner
  | byNamespace routes fallback => IgnoreClaims routes ∧ IgnoresClaims fallback
  | remote _ => False

/-- Whether that holds of the authorizers of all namespaces. -/
def IgnoreClaims : List (String × Authorizer) → Prop
  | [] => True
  | (_, authorizer) :: rest => IgnoresClaims authorizer ∧ IgnoreClaims rest

end

/-- Every permission that is split is public or not. -/
private theorem splitPublic_cases {namespaces : List String}
    (split : splitPublic descriptions namespaces asked = .ok (shared, guarded)) {wanted : Permission}
    (member : wanted ∈ asked) : wanted ∈ shared ∨ wanted ∈ guarded := by
  induction asked generalizing shared guarded with
  | nil => exact absurd member List.not_mem_nil
  | cons permission rest ih =>
    simp only [splitPublic, except_bind_eq_ok_iff] at split
    obtain ⟨home, _, ⟨sharedRest, guardedRest⟩, splitRest, chosen⟩ := split
    dsimp only at chosen
    by_cases isPublic : home.any namespaces.contains = true
    · rw [if_pos isPublic] at chosen
      cases chosen
      rcases List.mem_cons.mp member with rfl | member
      · exact .inl List.mem_cons_self
      · exact (ih splitRest member).imp_left (List.mem_cons_of_mem _)
    · rw [if_neg isPublic] at chosen
      cases chosen
      rcases List.mem_cons.mp member with rfl | member
      · exact .inr List.mem_cons_self
      · exact (ih splitRest member).imp_right (List.mem_cons_of_mem _)

/-- What is public is given anyway, and the rest by the inner authorizer. -/
private theorem covers_publicNamespaces {namespaces : List String} {inner : Authorizer}
    (split : splitPublic descriptions namespaces asked = .ok (shared, guarded))
    (rest : guarded ≠ [] → (permissions descriptions claims (some guarded) inner).Covers guarded) :
    (permissions descriptions claims (some asked) (publicNamespaces namespaces inner)).Covers
      asked := by
  cases guarded with
  | nil =>
    refine ⟨shared, ?_, fun wanted member => ?_⟩
    · simp only [permissions, Consult.outcome_bind, Consult.outcome_lift, split]
      rfl
    · exact Permission.covers_of_mem ((splitPublic_cases split member).resolve_right List.not_mem_nil)
  | cons first others =>
    obtain ⟨granted, decided, all⟩ := rest nofun
    refine ⟨shared ++ granted, ?_, fun wanted member => ?_⟩
    · simp only [permissions, Consult.outcome_bind, Consult.outcome_lift, split,
        List.isEmpty_cons, Bool.false_eq_true, if_false, decided]
      rfl
    · rcases splitPublic_cases split member with isPublic | isGuarded
      · exact Permission.covers_of_mem (List.mem_append_left granted isPublic)
      · exact covers_mono (List.subset_append_right shared granted) (all wanted isGuarded)

private theorem covers_webIds {allowed : List String}
    (holds : (Requirements.withOneOf .empty ClaimType.webId allowed).HoldIn claims) :
    (permissions descriptions claims (some asked) (webIds allowed)).Covers asked := by
  obtain ⟨webId, shown, passed⟩ := holds ClaimType.webId (.oneOf allowed) (Dict.get?_insert_same _ _ _)
  have listed : (claims.text? ClaimType.webId).any allowed.contains = true := by
    rw [Claims.text?, shown]
    exact passed
  rw [permissions, if_pos listed]
  exact Consult.covers_pure asked

mutual

/-- An authorizer gives everything to those who show what one of its alternatives asks for. -/
theorem covers_of_holdIn : (authorizer : Authorizer) → {asked : List Permission} →
    {alternatives : List Requirements} → authorizer.IgnoresClaims →
    (credentials descriptions asked known authorizer).outcome = .ok alternatives →
    alternative ∈ alternatives → alternative.HoldIn claims →
    (permissions descriptions claims (some asked) authorizer).Covers asked
  | everyone, asked, _, _, _, _, _ => by
    rw [permissions]
    exact Consult.covers_pure asked
  | nobody, _, _, _, offered, member, _ => by
    cases offered
    exact absurd member List.not_mem_nil
  | webIds allowed, _, _, _, offered, member, holds => by
    rw [credentials] at offered
    cases offered
    obtain rfl := List.mem_singleton.mp member
    exact covers_webIds holds
  | policy policies, _, _, ignores, offered, member, holds => by
    rw [IgnoresClaims] at ignores
    rw [credentials] at offered
    cases offered
    obtain rfl := List.mem_singleton.mp member
    obtain ⟨webId, shown, admitted⟩ := holds ClaimType.webId _ (Dict.get?_insert_same _ _ _)
    rw [permissions]
    exact PolicySet.covers_of_admits ignores shown admitted
  | publicNamespaces namespaces inner, _, _, ignores, offered, member, holds => by
    rw [IgnoresClaims] at ignores
    simp only [credentials, Consult.bind_outcome_eq_ok_iff, Consult.outcome_lift] at offered
    obtain ⟨⟨shared, guarded⟩, split, offered⟩ := offered
    refine covers_publicNamespaces split fun some => ?_
    dsimp only at offered
    rw [if_neg (by simpa using some)] at offered
    exact covers_of_holdIn inner ignores offered member holds
  | byNamespace routes fallback, asked, _, ignores, offered, member, holds => by
    rw [IgnoresClaims] at ignores
    obtain ⟨ignoreRoutes, ignoresFallback⟩ := ignores
    simp only [credentials, Consult.bind_outcome_eq_ok_iff, Consult.outcome_lift] at offered
    obtain ⟨home, found, offered⟩ := offered
    unfold Consult.Covers
    simp only [permissions, Consult.outcome_bind, Consult.outcome_lift, found]
    -- Both questions go to the same authorizer, so the alternative is one of its own.
    cases home with
    | mixed =>
      cases offered
      exact absurd member List.not_mem_nil
    | single name =>
      cases name with
      | none => exact covers_of_holdIn fallback ignoresFallback offered member holds
      | some name =>
        dsimp only at offered ⊢
        exact routedCovers_of_holdIn routes ignoreRoutes
          (fun offered => covers_of_holdIn fallback ignoresFallback offered member holds)
          offered member holds

/-- The same for the authorizer that a namespace has, if it is so for the one that decides for want of
such. -/
private theorem routedCovers_of_holdIn {name : String} : (routes : List (String × Authorizer)) →
    {asked : List Permission} → {alternatives : List Requirements} →
    {answer : Consult (List Requirements)} → {decision : Consult (List Permission)} →
    IgnoreClaims routes → (answer.outcome = .ok alternatives → decision.Covers asked) →
    (match routedCredentials descriptions asked known name routes with
      | some answer => answer
      | none => answer).outcome = .ok alternatives →
    alternative ∈ alternatives → alternative.HoldIn claims →
    (match routedPermissions descriptions claims (some asked) name routes with
      | some decision => decision
      | none => decision).Covers asked
  | [], _, _, _, _, _, otherwise, offered, _, _ => by
    rw [routedCredentials] at offered
    rw [routedPermissions]
    exact otherwise offered
  | (namespaceName, authorizer) :: rest, _, _, _, _, ignore, otherwise, offered, member, holds => by
    rw [IgnoreClaims] at ignore
    rw [routedCredentials] at offered
    rw [routedPermissions]
    by_cases same : namespaceName = name
    · rw [if_pos same] at offered ⊢
      exact covers_of_holdIn authorizer ignore.1 offered member holds
    · rw [if_neg same] at offered ⊢
      exact routedCovers_of_holdIn rest ignore.2 otherwise offered member holds

end

/-- An authorizer decides, and gives everything, once all claims of one of its alternatives are shown
with values that pass. Then a ticket that is judged by it is settled too, if it asks for any scope. -/
theorem credentials_suffice (authorizer : Authorizer) (ignores : authorizer.IgnoresClaims)
    (offered : (credentials descriptions asked known authorizer).outcome = .ok alternatives)
    (member : alternative ∈ alternatives) (holds : alternative.HoldIn claims) :
    (∃ granted, (permissions descriptions claims (some asked) authorizer).outcome = .ok granted ∧
        ∀ wanted ∈ asked, covers granted wanted = true) ∧
      ∀ ticket : Ticket, ticket.permissions = asked → ticket.provided = claims →
        (∃ wanted ∈ asked, wanted.resourceScopes ≠ []) →
        ∃ granted,
          (Settlement.resolve ⟨.judgement, authorizer⟩ descriptions ticket).outcome =
            .ok (.success granted) ∧
          ∀ wanted ∈ asked, covers granted wanted = true := by
  obtain ⟨granted, decided, all⟩ := authorizer.covers_of_holdIn ignores offered member holds
  refine ⟨⟨granted, decided, all⟩, ?_⟩
  rintro ticket rfl rfl ⟨wanted, listed, some⟩
  have still : ∀ wanted ∈ ticket.permissions,
      covers (Settlement.nonemptyGrants granted) wanted = true :=
    fun wanted present => Permission.covers_filter_nonempty (all wanted present)
  refine ⟨Settlement.nonemptyGrants granted, ?_, still⟩
  obtain ⟨scope, asking⟩ := List.exists_mem_of_ne_nil _ some
  obtain ⟨grant, present, _⟩ := covers_iff.mp (still wanted listed) scope asking
  simp only [Settlement.resolve, Consult.outcome_bind, decided]
  cases given : Settlement.nonemptyGrants granted with
  | nil => exact absurd (given ▸ present) List.not_mem_nil
  | cons => rfl

end Authorizer

/-! ## A clinic with public leaflets -/

namespace Clinic

def doctor : String := "https://doctor.example/me"

def policies : PolicySet where
  engine := .ofRules [⟨some (some doctor), some "record", none, .ok .activePermission⟩]
  vocabulary := .odrl

def authorizer : Authorizer :=
  .publicNamespaces ["public"] (.byNamespace [("medical", .policy policies)] .nobody)

def descriptions : Descriptions :=
  (Descriptions.empty.describe "record" (.named "pod:/clinic/medical/record")).describe
    "leaflet" (.named "pod:/clinic/public/leaflet")

def asked : List Permission :=
  [.of "record" [Scope.read, Scope.read], .of "leaflet" ["print"]]

def claims : Claims :=
  .ofList [(ClaimType.webId, .string doctor), (ClaimType.purpose, .string "care")]

def alternative : Requirements :=
  Dict.empty.insert ClaimType.webId ⟨policies.admits [.of "record" [Scope.read, Scope.read]]⟩

theorem ignoresClaims : authorizer.IgnoresClaims :=
  ⟨⟨PolicyEngine.ofRules_ignoresClaims _, trivial⟩, trivial⟩

theorem offered :
    (authorizer.credentials descriptions asked none).outcome = .ok [alternative] := rfl

theorem alternative_holdIn : alternative.HoldIn claims := by
  intro claimType predicate required
  rw [alternative, Dict.get?_insert] at required
  split at required
  case isTrue same =>
    cases required
    subst same
    exact ⟨.string doctor, rfl, rfl⟩
  case isFalse => cases required

end Clinic

theorem Authorizer.credentials_suffice_clinic :
    (∃ granted,
        (Clinic.authorizer.permissions Clinic.descriptions Clinic.claims (some Clinic.asked)).outcome =
          .ok granted ∧
        ∀ wanted ∈ Clinic.asked, covers granted wanted = true) ∧
      ∃ granted,
        (Settlement.resolve ⟨.judgement, Clinic.authorizer⟩ Clinic.descriptions
            ((Ticket.new Clinic.asked []).provide Clinic.claims)).outcome = .ok (.success granted) ∧
          ∀ wanted ∈ Clinic.asked, covers granted wanted = true := by
  obtain ⟨decides, settles⟩ := Authorizer.credentials_suffice Clinic.authorizer Clinic.ignoresClaims
    Clinic.offered List.mem_cons_self Clinic.alternative_holdIn
  exact ⟨decides, settles _ rfl rfl ⟨_, List.mem_cons_self, nofun⟩⟩

end UmaGrant
