import UmaGrant.Authorizer
import UmaGrant.Proofs.Consultation
/-! # Authorizers stay within their query

Whatever claims give, an authorizer answers a query with restrictions of what the query asks for:
the same resource and no scope that was not asked for. The proof follows the tree of the authorizer;
only an authorizer that lives elsewhere may answer as it likes.
-/

namespace UmaGrant

/-- Whether a grant is on the resource that is asked for and has only scopes that are asked for. -/
def Permission.Restricts (granted wanted : Permission) : Prop :=
  granted.resourceId = wanted.resourceId ∧ granted.resourceScopes ⊆ wanted.resourceScopes

/-- Whether every grant restricts something that is asked for. -/
def Permission.AllRestrict (granted asked : List Permission) : Prop :=
  ∀ grant ∈ granted, ∃ wanted ∈ asked, grant.Restricts wanted

namespace Permission

theorem Restricts.refl (permission : Permission) : permission.Restricts permission :=
  ⟨rfl, List.Subset.refl _⟩

theorem AllRestrict.refl (permissions : List Permission) : AllRestrict permissions permissions :=
  fun permission member => ⟨permission, member, .refl permission⟩

theorem AllRestrict.nil (asked : List Permission) : AllRestrict [] asked :=
  fun _ member => absurd member List.not_mem_nil

/-- To ask for more of the same leaves restrictions what they are. -/
theorem AllRestrict.mono {granted asked more : List Permission} (restricted : AllRestrict granted asked)
    (within : asked ⊆ more) : AllRestrict granted more := by
  intro grant member
  obtain ⟨wanted, present, restricts⟩ := restricted grant member
  exact ⟨wanted, within present, restricts⟩

theorem AllRestrict.append {first second asked : List Permission} (left : AllRestrict first asked)
    (right : AllRestrict second asked) : AllRestrict (first ++ second) asked := by
  intro grant member
  rcases List.mem_append.mp member with member | member
  · exact left grant member
  · exact right grant member

theorem AllRestrict.filter {granted asked : List Permission} (restricted : AllRestrict granted asked)
    (keep : Permission → Bool) : AllRestrict (granted.filter keep) asked :=
  fun grant member => restricted grant (List.mem_filter.mp member).1

theorem addScope_resourceId (permission : Permission) (scope : String) :
    (permission.addScope scope).resourceId = permission.resourceId := by
  unfold addScope
  split <;> rfl

theorem addScope_subset (permission : Permission) (scope : String) :
    (permission.addScope scope).resourceScopes ⊆ scope :: permission.resourceScopes := by
  unfold addScope
  split
  · exact List.subset_cons_of_subset _ (List.Subset.refl _)
  · intro other member
    simpa [or_comm] using member

end Permission

namespace PolicySet

open Permission

variable {policies : PolicySet} {claims : Claims}

/-- Scopes are only added from the list that is gone through. -/
private theorem grantScopes_restricts {permission granted result : Permission}
    {scopes : List String}
    (decided : (policies.grantScopes claims permission granted scopes).outcome = .ok result) :
    result.resourceId = granted.resourceId ∧
      result.resourceScopes ⊆ granted.resourceScopes ++ scopes := by
  induction scopes generalizing granted with
  | nil =>
    cases decided
    exact ⟨rfl, by simp⟩
  | cons scope rest ih =>
    cases known : policies.vocabulary.action? scope with
    | none =>
      simp only [grantScopes, known] at decided
      obtain ⟨same, within⟩ := ih decided
      exact ⟨same, fun other member => by
        rcases List.mem_append.mp (within member) with old | new <;> simp [*]⟩
    | some action =>
      simp only [grantScopes, known, Consult.bind_outcome_eq_ok_iff] at decided
      obtain ⟨verdict, _, decided⟩ := decided
      obtain ⟨same, within⟩ := ih decided
      -- The scope is in the grant or not, as the verdict says; it was asked for in either case.
      by_cases active : verdict = .activePermission
      · rw [if_pos active] at same within
        refine ⟨same.trans (addScope_resourceId _ _), fun other member => ?_⟩
        rcases List.mem_append.mp (within member) with old | new
        · rcases List.mem_cons.mp (addScope_subset _ _ old) with now | before <;> simp [*]
        · simp [new]
      · rw [if_neg active] at same within
        refine ⟨same, fun other member => ?_⟩
        rcases List.mem_append.mp (within member) with old | new <;> simp [*]

theorem decide_restricts {permission granted : Permission}
    (decided : (policies.decide claims permission).outcome = .ok granted) :
    granted.Restricts permission := by
  obtain ⟨same, within⟩ := grantScopes_restricts decided
  have nothing : (permission.retainScopes fun _ => false).resourceScopes = [] :=
    List.filter_eq_nil_iff.mpr (by simp)
  exact ⟨same, by rwa [nothing, List.nil_append] at within⟩

theorem decideAll_restricts {asked granted : List Permission}
    (decided : (policies.decideAll claims asked).outcome = .ok granted) :
    AllRestrict granted asked := by
  induction asked generalizing granted with
  | nil =>
    cases decided
    exact .nil []
  | cons permission rest ih =>
    simp only [decideAll, Consult.bind_outcome_eq_ok_iff, Consult.outcome_pure, Except.ok.injEq]
      at decided
    obtain ⟨first, decidedFirst, more, decidedMore, rfl⟩ := decided
    intro grant member
    rcases List.mem_cons.mp member with rfl | member
    · exact ⟨permission, List.mem_cons_self, decide_restricts decidedFirst⟩
    · exact (ih decidedMore).mono (List.subset_cons_self _ _) grant member

end PolicySet

namespace Authorizer

open Permission

/-- Public and other permissions are the permissions that were split. -/
private theorem splitPublic_subset {descriptions : Descriptions} {namespaces : List String}
    {permissions shared guarded : List Permission}
    (split : splitPublic descriptions namespaces permissions = .ok (shared, guarded)) :
    shared ⊆ permissions ∧ guarded ⊆ permissions := by
  induction permissions generalizing shared guarded with
  | nil =>
    cases split
    exact ⟨List.Subset.refl _, List.Subset.refl _⟩
  | cons permission rest ih =>
    simp only [splitPublic, except_bind_eq_ok_iff] at split
    obtain ⟨home, _, ⟨sharedRest, guardedRest⟩, splitRest, chosen⟩ := split
    obtain ⟨sharedWithin, guardedWithin⟩ := ih splitRest
    dsimp only at chosen
    by_cases isPublic : home.any namespaces.contains = true
    · rw [if_pos isPublic] at chosen
      cases chosen
      exact ⟨List.cons_subset_cons _ sharedWithin, List.subset_cons_of_subset _ guardedWithin⟩
    · rw [if_neg isPublic] at chosen
      cases chosen
      exact ⟨List.subset_cons_of_subset _ sharedWithin, List.cons_subset_cons _ guardedWithin⟩

mutual

/-- Whether an authorizer decides by itself, down to its last part. -/
def isOwn : Authorizer → Bool
  | everyone | nobody | webIds _ | policy _ => true
  | publicNamespaces _ inner => isOwn inner
  | byNamespace routes fallback => areOwn routes && isOwn fallback
  | remote _ => false

/-- Whether the authorizers of all namespaces decide by themselves. -/
def areOwn : List (String × Authorizer) → Bool
  | [] => true
  | (_, authorizer) :: rest => isOwn authorizer && areOwn rest

end

mutual

/-- An authorizer that decides by itself gives restrictions of what is asked for. -/
theorem permissions_restrict {descriptions : Descriptions} {claims : Claims}
    {asked granted : List Permission} : (authorizer : Authorizer) → authorizer.isOwn = true →
    (permissions descriptions claims (some asked) authorizer).outcome = .ok granted →
    AllRestrict granted asked
  | everyone, _, decided => by
    cases decided
    exact .refl asked
  | nobody, _, decided => by
    cases decided
    exact .nil asked
  | webIds allowed, _, decided => by
    simp only [permissions, Consult.outcome_pure, Except.ok.injEq] at decided
    subst decided
    by_cases listed : (claims.text? ClaimType.webId).any allowed.contains = true
    · rw [if_pos listed]
      exact .refl asked
    · rw [if_neg listed]
      exact .nil asked
  | policy policies, _, decided => by
    rw [permissions] at decided
    exact policies.decideAll_restricts decided
  | publicNamespaces namespaces inner, own, decided => by
    rw [isOwn] at own
    simp only [permissions, Consult.bind_outcome_eq_ok_iff, Consult.outcome_lift] at decided
    obtain ⟨⟨shared, guarded⟩, split, decided⟩ := decided
    obtain ⟨sharedWithin, guardedWithin⟩ := splitPublic_subset split
    dsimp only at decided
    by_cases none : guarded.isEmpty = true
    · rw [if_pos none, Consult.outcome_pure, Except.ok.injEq] at decided
      subst decided
      exact (AllRestrict.refl shared).mono sharedWithin
    · rw [if_neg none] at decided
      simp only [Consult.bind_outcome_eq_ok_iff, Consult.outcome_pure, Except.ok.injEq] at decided
      obtain ⟨others, decidedOthers, rfl⟩ := decided
      exact ((AllRestrict.refl shared).mono sharedWithin).append
        ((permissions_restrict inner own decidedOthers).mono guardedWithin)
  | byNamespace routes fallback, own, decided => by
    obtain ⟨ownRoutes, ownFallback⟩ : areOwn routes = true ∧ isOwn fallback = true := by
      simpa [isOwn] using own
    simp only [permissions, Consult.bind_outcome_eq_ok_iff, Consult.outcome_lift] at decided
    obtain ⟨home, _, decided⟩ := decided
    cases home with
    | mixed =>
      cases decided
      exact .nil asked
    | single name =>
      cases name with
      | none => exact permissions_restrict fallback ownFallback decided
      | some name =>
        dsimp only at decided
        cases found : routedPermissions descriptions claims (some asked) name routes with
        | none =>
          rw [found] at decided
          exact permissions_restrict fallback ownFallback decided
        | some decision =>
          rw [found] at decided
          exact routedPermissions_restrict routes ownRoutes found decided

/-- The same for the authorizer that a namespace has. -/
private theorem routedPermissions_restrict {descriptions : Descriptions} {claims : Claims}
    {asked granted : List Permission} {name : String} {decision : Consult (List Permission)} :
    (routes : List (String × Authorizer)) → areOwn routes = true →
    routedPermissions descriptions claims (some asked) name routes = some decision →
    decision.outcome = .ok granted → AllRestrict granted asked
  | [], _, found, _ => by simp [routedPermissions] at found
  | (namespaceName, authorizer) :: rest, own, found, decided => by
    obtain ⟨ownFirst, ownRest⟩ : isOwn authorizer = true ∧ areOwn rest = true := by
      simpa [areOwn] using own
    rw [routedPermissions] at found
    by_cases same : namespaceName = name
    · rw [if_pos same] at found
      cases found
      exact permissions_restrict authorizer ownFirst decided
    · rw [if_neg same] at found
      exact routedPermissions_restrict rest ownRest found decided

end

end Authorizer

end UmaGrant
