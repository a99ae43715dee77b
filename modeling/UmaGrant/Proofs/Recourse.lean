import UmaGrant.Proofs.Consultation
import UmaGrant.Strategy
import UmaGrant.Verifier
/-! # Errors without recourse

An error from which the negotiation may go on tells the client about a ticket. To say it is up to the
negotiation alone. Stores, policy engines, authorizers and verifiers are conclusive if all their errors
are without recourse. All authorizers and verifiers that decide by themselves are, and so are
strategies that rest on conclusive parts.
-/

namespace UmaGrant

/-- Whether an outcome, if it is an error, leaves no recourse. -/
def Conclusive {α : Type} (outcome : Except GrantError α) : Prop :=
  ∀ error, outcome = .error error → error.hasRecourse = false

section

variable {α β : Type}

theorem Conclusive.ok (value : α) : Conclusive (.ok value) := nofun

theorem Conclusive.error {error : GrantError} (final : error.hasRecourse = false) :
    Conclusive (.error error : Except GrantError α) := by
  intro other same
  cases same
  exact final

theorem Conclusive.bind {first : Except GrantError α} {next : α → Except GrantError β}
    (conclusive : Conclusive first) (conclusiveNext : ∀ value, Conclusive (next value)) :
    Conclusive (first >>= next) := by
  cases outcome : first with
  | error error => exact .error (conclusive error outcome)
  | ok value => exact conclusiveNext value

theorem Conclusive.consult_bind {first : Consult α} {next : α → Consult β}
    (conclusive : Conclusive first.outcome)
    (conclusiveNext : ∀ value, Conclusive (next value).outcome) :
    Conclusive (first >>= next).outcome := by
  intro error failed
  rcases Consult.bind_outcome_eq_error_iff.mp failed with failed | ⟨value, _, failed⟩
  · exact conclusive error failed
  · exact conclusiveNext value error failed

end

/-! ## Descriptions and policies -/

/-- Whether a store of descriptions, if it is out of order, says so without recourse. -/
def Descriptions.IsConclusive (descriptions : Descriptions) : Prop :=
  ∀ error, descriptions.outage = some error → error.hasRecourse = false

namespace Descriptions

variable {descriptions : Descriptions}

theorem IsConclusive.lookup (conclusive : descriptions.IsConclusive) (id : String) :
    Conclusive (descriptions.lookup id) := by
  unfold Descriptions.lookup
  cases outage : descriptions.outage with
  | none => exact .ok _
  | some error => exact .error (conclusive error outage)

theorem IsConclusive.namespaceOf (conclusive : descriptions.IsConclusive) (id : String) :
    Conclusive (descriptions.namespaceOf id) := by
  refine (conclusive.lookup id).bind fun known => ?_
  cases known with
  | none => exact .ok _
  | some description =>
    dsimp only
    cases description.name <;> exact .ok _

end Descriptions

/-- Whether all errors of a policy engine are without recourse. -/
def PolicyEngine.IsConclusive (engine : PolicyEngine) : Prop :=
  ∀ request, Conclusive (engine.judge request)

namespace PolicySet

variable {policies : PolicySet}

private theorem grantScopes_conclusive (conclusive : policies.engine.IsConclusive) (claims : Claims)
    (permission granted : Permission) (scopes : List String) :
    Conclusive (policies.grantScopes claims permission granted scopes).outcome := by
  induction scopes generalizing granted with
  | nil => exact .ok granted
  | cons scope rest ih =>
    unfold grantScopes
    cases policies.vocabulary.action? scope with
    | none => exact ih granted
    | some action =>
      exact Conclusive.consult_bind (conclusive (request claims permission action)) fun _ => ih _

theorem decideAll_conclusive (conclusive : policies.engine.IsConclusive) (claims : Claims)
    (asked : List Permission) : Conclusive (policies.decideAll claims asked).outcome := by
  induction asked with
  | nil => exact .ok []
  | cons permission rest ih =>
    refine Conclusive.consult_bind (grantScopes_conclusive conclusive claims permission _ _) ?_
    exact fun granted => ih.consult_bind fun more => .ok _

end PolicySet

/-! ## Authorizers -/

namespace Authorizer

variable {descriptions : Descriptions}

private theorem splitPublic_conclusive (conclusive : descriptions.IsConclusive)
    (namespaces : List String) (permissions : List Permission) :
    Conclusive (splitPublic descriptions namespaces permissions) := by
  induction permissions with
  | nil => exact .ok _
  | cons permission rest ih =>
    refine (conclusive.namespaceOf permission.resourceId).bind fun home => ih.bind fun parts => ?_
    dsimp only
    split <;> exact .ok _

private theorem homes_conclusive (conclusive : descriptions.IsConclusive)
    (permissions : List Permission) : Conclusive (homes descriptions permissions) := by
  induction permissions with
  | nil => exact .ok _
  | cons permission rest ih =>
    exact (conclusive.namespaceOf permission.resourceId).bind fun home => ih.bind fun _ => .ok _

private theorem homeOf_conclusive (conclusive : descriptions.IsConclusive)
    (permissions : List Permission) : Conclusive (homeOf descriptions permissions) := by
  refine (homes_conclusive conclusive permissions).bind fun names => ?_
  cases names <;> exact .ok _

mutual

/-- Whether all errors of an authorizer are without recourse, down to its last part. -/
def IsConclusive : Authorizer → Prop
  | everyone | nobody | webIds _ => True
  | policy policies => policies.engine.IsConclusive
  | publicNamespaces _ inner => IsConclusive inner
  | byNamespace routes fallback => AreConclusive routes ∧ IsConclusive fallback
  | remote authorizer =>
    (∀ claims query, Conclusive (authorizer.permissions claims query)) ∧
      ∀ asked known, Conclusive (authorizer.credentials asked known)

/-- Whether all errors of the authorizers of namespaces are without recourse. -/
def AreConclusive : List (String × Authorizer) → Prop
  | [] => True
  | (_, authorizer) :: rest => IsConclusive authorizer ∧ AreConclusive rest

end

mutual

theorem permissions_conclusive (describing : descriptions.IsConclusive) (claims : Claims)
    (query : Option (List Permission)) : (authorizer : Authorizer) → authorizer.IsConclusive →
    Conclusive (permissions descriptions claims query authorizer).outcome
  | everyone, _ => .ok _
  | nobody, _ => .ok _
  | webIds _, _ => .ok _
  | policy policies, conclusive => by
    rw [IsConclusive] at conclusive
    unfold permissions
    cases query with
    | none => exact .ok _
    | some asked => exact policies.decideAll_conclusive conclusive claims asked
  | publicNamespaces namespaces inner, conclusive => by
    rw [IsConclusive] at conclusive
    unfold permissions
    cases query with
    | none => exact permissions_conclusive describing claims none inner conclusive
    | some asked =>
      refine Conclusive.consult_bind (splitPublic_conclusive describing namespaces asked) ?_
      rintro ⟨shared, guarded⟩
      dsimp only
      split
      · exact .ok _
      · exact (permissions_conclusive describing claims (some guarded) inner conclusive).consult_bind
          fun _ => .ok _
  | byNamespace routes fallback, conclusive => by
    rw [IsConclusive] at conclusive
    obtain ⟨conclusiveRoutes, conclusiveFallback⟩ := conclusive
    unfold permissions
    cases query with
    | none => exact permissions_conclusive describing claims none fallback conclusiveFallback
    | some asked =>
      have rest := permissions_conclusive describing claims (some asked) fallback conclusiveFallback
      refine Conclusive.consult_bind (homeOf_conclusive describing asked) fun home => ?_
      cases home with
      | mixed => exact .ok _
      | single name =>
        cases name with
        | none => exact rest
        | some name =>
          dsimp only
          cases found : routedPermissions descriptions claims (some asked) name routes with
          | none => exact rest
          | some decision =>
            exact routedPermissions_conclusive describing routes conclusiveRoutes found
  | remote authorizer, conclusive => by
    rw [IsConclusive] at conclusive
    rw [permissions]
    exact conclusive.1 claims query

private theorem routedPermissions_conclusive (describing : descriptions.IsConclusive)
    {claims : Claims} {query : Option (List Permission)} {name : String}
    {decision : Consult (List Permission)} : (routes : List (String × Authorizer)) →
    AreConclusive routes →
    routedPermissions descriptions claims query name routes = some decision →
    Conclusive decision.outcome
  | [], _, found => by simp [routedPermissions] at found
  | (namespaceName, authorizer) :: rest, conclusive, found => by
    rw [AreConclusive] at conclusive
    rw [routedPermissions] at found
    by_cases same : namespaceName = name
    · rw [if_pos same] at found
      cases found
      exact permissions_conclusive describing claims query authorizer conclusive.1
    · rw [if_neg same] at found
      exact routedPermissions_conclusive describing rest conclusive.2 found

end

mutual

theorem credentials_conclusive (describing : descriptions.IsConclusive) (asked : List Permission)
    (known : Option (List String)) : (authorizer : Authorizer) → authorizer.IsConclusive →
    Conclusive (credentials descriptions asked known authorizer).outcome
  | everyone, _ => .ok _
  | nobody, _ => .ok _
  | webIds _, _ => .ok _
  | policy _, _ => .ok _
  | publicNamespaces namespaces inner, conclusive => by
    rw [IsConclusive] at conclusive
    unfold credentials
    refine Conclusive.consult_bind (splitPublic_conclusive describing namespaces asked) ?_
    rintro ⟨shared, guarded⟩
    dsimp only
    split
    · exact .ok _
    · exact credentials_conclusive describing guarded known inner conclusive
  | byNamespace routes fallback, conclusive => by
    rw [IsConclusive] at conclusive
    obtain ⟨conclusiveRoutes, conclusiveFallback⟩ := conclusive
    have rest := credentials_conclusive describing asked known fallback conclusiveFallback
    unfold credentials
    refine Conclusive.consult_bind (homeOf_conclusive describing asked) fun home => ?_
    cases home with
    | mixed => exact .ok _
    | single name =>
      cases name with
      | none => exact rest
      | some name =>
        dsimp only
        cases found : routedCredentials descriptions asked known name routes with
        | none => exact rest
        | some answer =>
          exact routedCredentials_conclusive describing routes conclusiveRoutes found
  | remote authorizer, conclusive => by
    rw [IsConclusive] at conclusive
    rw [credentials]
    exact conclusive.2 asked known

private theorem routedCredentials_conclusive (describing : descriptions.IsConclusive)
    {asked : List Permission} {known : Option (List String)} {name : String}
    {answer : Consult (List Requirements)} : (routes : List (String × Authorizer)) →
    AreConclusive routes →
    routedCredentials descriptions asked known name routes = some answer →
    Conclusive answer.outcome
  | [], _, found => by simp [routedCredentials] at found
  | (namespaceName, authorizer) :: rest, conclusive, found => by
    rw [AreConclusive] at conclusive
    rw [routedCredentials] at found
    by_cases same : namespaceName = name
    · rw [if_pos same] at found
      cases found
      exact credentials_conclusive describing asked known authorizer conclusive.1
    · rw [if_neg same] at found
      exact routedCredentials_conclusive describing rest conclusive.2 found

end

end Authorizer

/-! ## Verifiers -/

theorem TokenFactories.redeem_conclusive (factories : TokenFactories) (name : String)
    (now : Instant) (token : String) : Conclusive (factories.redeem name now token).1 := by
  unfold redeem
  cases factories.get? name with
  | none => exact .error rfl
  | some factory =>
    cases factory with
    | reference table =>
      change Conclusive (table.redeem now token).1
      unfold ReferenceTokens.redeem
      cases table.entries.get? token with
      | none => exact .error rfl
      | some stored =>
        dsimp only
        split
        · exact .ok _
        · exact .error rfl
    | signed tokens ring =>
      change Conclusive (tokens.redeem ring now token)
      unfold SignedTokens.redeem
      cases tokens.verify ring now token with
      | ok payload => exact .ok _
      | error fault => cases fault <;> exact .error rfl

namespace Verifier

mutual

/-- Whether all errors of a verifier are without recourse, whatever the format of the token. -/
def IsConclusive : Verifier → Prop
  | trusting | accessTokens _ => True
  | byFormat routes => AreConclusive routes
  | known tokens unknown =>
    (∀ token claims, Dict.lookup token tokens = some claims → Conclusive claims) ∧
      unknown.hasRecourse = false

/-- Whether all errors of the verifiers for formats are without recourse. -/
def AreConclusive : List (String × Verifier) → Prop
  | [] => True
  | (_, verifier) :: rest => IsConclusive verifier ∧ AreConclusive rest

end

private theorem trust_conclusive (token : ClaimToken) : Conclusive (trust token) := by
  unfold trust claimsOfText
  split
  · exact .ok _
  · split
    · split
      · exact .ok _
      · exact .error rfl
      · exact .error rfl
    · exact .error rfl

private theorem accessClaims_conclusive {payload : Except GrantError AccessToken}
    (conclusive : Conclusive payload) : Conclusive (accessClaims payload) := by
  unfold accessClaims
  split
  · exact .ok _
  · exact .error rfl
  · exact .error (conclusive _ rfl)

mutual

theorem verify_conclusive (now : Instant) (token : ClaimToken) (factories : TokenFactories) :
    (verifier : Verifier) → verifier.IsConclusive →
    Conclusive (verify now token factories verifier).1
  | trusting, _ => trust_conclusive token
  | accessTokens factory, _ =>
    accessClaims_conclusive (factories.redeem_conclusive factory now token.token)
  | byFormat routes, conclusive => by
    rw [IsConclusive] at conclusive
    unfold verify
    cases routed : verifyRouted now token factories routes with
    | none => exact .error rfl
    | some answer => exact verifyRouted_conclusive now token factories routes conclusive routed
  | known tokens unknown, conclusive => by
    rw [IsConclusive] at conclusive
    unfold verify
    dsimp only
    cases proven : Dict.lookup token.token tokens with
    | none => exact .error conclusive.2
    | some claims => exact conclusive.1 token.token claims proven

private theorem verifyRouted_conclusive (now : Instant) (token : ClaimToken)
    (factories : TokenFactories) {answer : Except GrantError Claims × TokenFactories} :
    (routes : List (String × Verifier)) → AreConclusive routes →
    verifyRouted now token factories routes = some answer → Conclusive answer.1
  | [], _, routed => by simp [verifyRouted] at routed
  | (format, verifier) :: rest, conclusive, routed => by
    rw [AreConclusive] at conclusive
    rw [verifyRouted] at routed
    by_cases same : format = token.format
    · rw [if_pos same] at routed
      cases routed
      exact verify_conclusive now token factories verifier conclusive.1
    · rw [if_neg same] at routed
      exact verifyRouted_conclusive now token factories rest conclusive.2 routed

end

end Verifier

/-! ## Strategies -/

namespace Sourced

theorem demandFor_conclusive {descriptions : Descriptions} (describing : descriptions.IsConclusive)
    (sourced : Sourced) (permissions : List Permission) :
    Conclusive (demandFor descriptions sourced permissions) := by
  induction permissions generalizing sourced with
  | nil => exact .ok sourced
  | cons permission rest ih =>
    exact (describing.lookup permission.resourceId).bind fun known => ih _

end Sourced

theorem Derivation.claimsFor_conclusive (issuers : Issuers) (ids : List String) :
    Conclusive (claimsFor issuers ids) := by
  induction ids with
  | nil => exact .ok []
  | cons id rest ih =>
    unfold claimsFor
    cases issuers.get? id with
    | none => exact .error rfl
    | some issuer => exact ih.bind fun more => .ok _

namespace Settlement

variable {settlement : Settlement} {descriptions : Descriptions}

theorem openTicket_conclusive (conclusive : settlement.authorizer.IsConclusive)
    (describing : descriptions.IsConclusive) (permissions : List Permission) :
    Conclusive (settlement.openTicket descriptions permissions).outcome := by
  unfold openTicket
  cases settlement.method with
  | judgement => exact .ok _
  | elimination =>
    exact (settlement.authorizer.credentials_conclusive describing permissions none
      conclusive).consult_bind fun alternatives => .ok _

theorem resolve_conclusive (conclusive : settlement.authorizer.IsConclusive)
    (describing : descriptions.IsConclusive) (ticket : Ticket) :
    Conclusive (settlement.resolve descriptions ticket).outcome := by
  unfold resolve
  cases settlement.method with
  | elimination => exact .ok _
  | judgement =>
    refine (settlement.authorizer.permissions_conclusive describing ticket.provided _
      conclusive).consult_bind fun granted => ?_
    cases nonemptyGrants granted <;> exact .ok _

end Settlement

namespace Strategy

variable {strategy : Strategy} {descriptions : Descriptions}

theorem openTicket_conclusive (conclusive : strategy.settlement.authorizer.IsConclusive)
    (describing : descriptions.IsConclusive) (issuers : Issuers) (permissions : List Permission) :
    Conclusive (strategy.openTicket descriptions issuers permissions).outcome := by
  unfold openTicket
  cases strategy.codec with
  | none =>
    exact (Settlement.openTicket_conclusive conclusive describing permissions).consult_bind
      fun ticket => .ok _
  | some codec =>
    exact (Settlement.openTicket_conclusive conclusive describing _).consult_bind
      fun ticket => Sourced.demandFor_conclusive describing _ _

theorem resolve_conclusive (conclusive : strategy.settlement.authorizer.IsConclusive)
    (describing : descriptions.IsConclusive) (issuers : Issuers) (supply : Supply)
    (ticket : Ticket) :
    Conclusive (strategy.resolve descriptions issuers supply ticket).outcome := by
  unfold resolve
  cases strategy.codec with
  | none =>
    exact (Settlement.resolve_conclusive conclusive describing ticket).consult_bind
      fun resolution => .ok _
  | some codec =>
    refine (Settlement.resolve_conclusive conclusive describing _).consult_bind fun resolution => ?_
    have demanding : Conclusive (Derivation.outstanding issuers ticket) :=
      Derivation.claimsFor_conclusive issuers ticket.derivedIds.keys
    refine Conclusive.consult_bind demanding fun outstanding => ?_
    cases resolution <;> cases outstanding <;> exact .ok _

end Strategy

end UmaGrant
