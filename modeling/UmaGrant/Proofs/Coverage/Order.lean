import Mathlib.Data.Fintype.EquivFin
import Mathlib.Data.List.Forall2
import UmaGrant.Proofs.Authorizer.Restriction
import UmaGrant.Proofs.Coverage
/-! # Coverage is a preorder

What grants allow is a set of scopes on resources, in which a wildcard stands for every name there
is. Coverage is inclusion of these sets: a request is covered exactly if the grants allow all that
it would allow, whether the wildcards stand in the grants, in the request or in both. So coverage is
a preorder with the wildcard permission on top, and it depends neither on the order of the grants
nor on how scopes are dealt out to several grants on one resource.
-/

namespace UmaGrant

namespace Permission

variable {grant whole : Permission} {granted parts : List Permission} {resourceId scope : String}

/-- Whether a grant allows a scope on a resource, each of them by its name or by wildcard. -/
def Allows (grant : Permission) (resourceId scope : String) : Prop :=
  (grant.resourceId = anyResource ∨ grant.resourceId = resourceId) ∧
    (scope ∈ grant.resourceScopes ∨ anyScope ∈ grant.resourceScopes)

/-- Whether one of several grants allows a scope on a resource. -/
def SomeAllows (granted : List Permission) (resourceId scope : String) : Prop :=
  ∃ grant ∈ granted, grant.Allows resourceId scope

theorem hasScope_iff : grant.hasScope scope = true ↔
    scope ∈ grant.resourceScopes ∨ anyScope ∈ grant.resourceScopes := by
  simp [hasScope, and_or_left, exists_or]

theorem grants_iff : grant.grants resourceId scope = true ↔ grant.Allows resourceId scope := by
  simp only [grants, isAnyResource, Allows, hasScope_iff, Bool.and_eq_true, Bool.or_eq_true,
    decide_eq_true_eq]

/-! ## Wildcards -/

theorem any_allows : Permission.any.Allows resourceId scope :=
  ⟨.inl rfl, .inr List.mem_cons_self⟩

theorem SomeAllows.of_anyScope (allowed : SomeAllows granted resourceId anyScope) :
    SomeAllows granted resourceId scope := by
  obtain ⟨grant, member, onResource, has⟩ := allowed
  exact ⟨grant, member, onResource, .inr (has.elim id id)⟩

theorem SomeAllows.of_anyResource (allowed : SomeAllows granted anyResource scope) :
    SomeAllows granted resourceId scope := by
  obtain ⟨grant, member, onResource, has⟩ := allowed
  exact ⟨grant, member, .inl (onResource.elim id id), has⟩

private theorem exists_unlisted (wildcard : String) (names : List String) :
    ∃ name, name ≠ wildcard ∧ name ∉ names := by
  obtain ⟨name, unlisted⟩ := Infinite.exists_notMem_finset (wildcard :: names).toFinset
  rw [List.mem_toFinset, List.mem_cons, not_or] at unlisted
  exact ⟨name, unlisted⟩

/-- The wildcard scope is allowed on a resource exactly if all scopes are. -/
theorem someAllows_anyScope_iff : SomeAllows granted resourceId anyScope ↔
    ∀ scope, scope ≠ anyScope → SomeAllows granted resourceId scope := by
  refine ⟨fun allowed scope _ => allowed.of_anyScope, fun all => ?_⟩
  -- Grants list finitely many scopes. One that none of them lists is allowed by wildcard only.
  obtain ⟨scope, named, unlisted⟩ := exists_unlisted anyScope (granted.flatMap resourceScopes)
  obtain ⟨grant, member, onResource, listed | wildcard⟩ := all scope named
  · exact absurd (List.mem_flatMap.mpr ⟨grant, member, listed⟩) unlisted
  · exact ⟨grant, member, onResource, .inl wildcard⟩

/-- A scope is allowed on the wildcard resource exactly if it is allowed on all resources. -/
theorem someAllows_anyResource_iff : SomeAllows granted anyResource scope ↔
    ∀ resourceId, resourceId ≠ anyResource → SomeAllows granted resourceId scope := by
  refine ⟨fun allowed resourceId _ => allowed.of_anyResource, fun all => ?_⟩
  obtain ⟨resourceId, named, unlisted⟩ :=
    exists_unlisted anyResource (granted.map Permission.resourceId)
  obtain ⟨grant, member, wildcard | same, has⟩ := all resourceId named
  · exact ⟨grant, member, .inl wildcard, has⟩
  · exact absurd (List.mem_map.mpr ⟨grant, member, same⟩) unlisted

/-! ## Scopes dealt out to several grants -/

/-- Whether some grants are on the resource of one grant and together have its scopes. -/
structure SplitsInto (whole : Permission) (parts : List Permission) : Prop where
  sameResource : ∀ part ∈ parts, part.resourceId = whole.resourceId
  sameScopes : ∀ scope,
    scope ∈ whole.resourceScopes ↔ ∃ part ∈ parts, scope ∈ part.resourceScopes

/-- Whether grants come from others by splitting each of them by scope, or leaving it as it is, and
reordering all that results. -/
def Regroups (granted regrouped : List Permission) : Prop :=
  ∃ split, List.Forall₂ SplitsInto granted split ∧ regrouped.Perm split.flatten

theorem splitsInto_self (grant : Permission) : grant.SplitsInto [grant] where
  sameResource := by simp
  sameScopes := by simp

theorem splitsInto_retainScopes (whole : Permission) (keep : String → Bool) :
    whole.SplitsInto [whole.retainScopes keep, whole.retainScopes fun scope => !keep scope] where
  sameResource := by simp [retainScopes]
  sameScopes scope := by cases kept : keep scope <;> simp [retainScopes, kept]

theorem SplitsInto.someAllows_iff (splits : whole.SplitsInto parts) :
    SomeAllows parts resourceId scope ↔ whole.Allows resourceId scope := by
  have somePart : (scope ∈ whole.resourceScopes ∨ anyScope ∈ whole.resourceScopes) ↔
      ∃ part ∈ parts, scope ∈ part.resourceScopes ∨ anyScope ∈ part.resourceScopes := by
    simp only [splits.sameScopes, and_or_left, exists_or]
  constructor
  · rintro ⟨part, member, onResource, has⟩
    rw [splits.sameResource part member] at onResource
    exact ⟨onResource, somePart.mpr ⟨part, member, has⟩⟩
  · rintro ⟨onResource, has⟩
    obtain ⟨part, member, has⟩ := somePart.mp has
    rw [← splits.sameResource part member] at onResource
    exact ⟨part, member, onResource, has⟩

theorem someAllows_cons : SomeAllows (grant :: granted) resourceId scope ↔
    grant.Allows resourceId scope ∨ SomeAllows granted resourceId scope :=
  List.exists_mem_cons_iff ..

theorem someAllows_append : SomeAllows (parts ++ granted) resourceId scope ↔
    SomeAllows parts resourceId scope ∨ SomeAllows granted resourceId scope := by
  simp only [SomeAllows, List.mem_append, or_and_right, exists_or]

theorem someAllows_flatten {split : List (List Permission)}
    (splits : List.Forall₂ SplitsInto granted split) :
    SomeAllows split.flatten resourceId scope ↔ SomeAllows granted resourceId scope := by
  induction splits with
  | nil => rfl
  | cons first _ ih =>
    rw [List.flatten_cons, someAllows_append, someAllows_cons, first.someAllows_iff, ih]

theorem Regroups.someAllows_iff {regrouped : List Permission} (regroups : Regroups granted regrouped) :
    SomeAllows regrouped resourceId scope ↔ SomeAllows granted resourceId scope := by
  obtain ⟨split, splits, reordered⟩ := regroups
  rw [← someAllows_flatten splits]
  simp only [SomeAllows, reordered.mem_iff]

end Permission

/-! ## The order -/

open Permission

variable {granted between regrouped : List Permission} {wanted fewer : Permission}
  {resourceId scope : String}

theorem covers_iff_listed : covers granted wanted = true ↔
    ∀ scope ∈ wanted.resourceScopes, SomeAllows granted wanted.resourceId scope := by
  simp only [covers_iff, grants_iff, SomeAllows]

/-- What is covered allows nothing that the grants do not allow. -/
theorem someAllows_of_covers (covered : covers granted wanted = true)
    (allows : wanted.Allows resourceId scope) : SomeAllows granted resourceId scope := by
  have listed := covers_iff_listed.mp covered
  obtain ⟨onResource, has⟩ := allows
  have own : SomeAllows granted wanted.resourceId scope :=
    has.elim (listed scope) fun wildcard => (listed anyScope wildcard).of_anyScope
  rcases onResource with wildcard | rfl
  · rw [wildcard] at own
    exact own.of_anyResource
  · exact own

/-- Coverage is inclusion of what is allowed. It is enough to look at the resources and scopes that
are not wildcards themselves. -/
theorem covers_iff_allows : covers granted wanted = true ↔
    ∀ resourceId scope, resourceId ≠ anyResource → scope ≠ anyScope →
      wanted.Allows resourceId scope → SomeAllows granted resourceId scope := by
  refine ⟨fun covered _ _ _ _ => someAllows_of_covers covered, fun included => ?_⟩
  refine covers_iff_listed.mpr fun scope listed => ?_
  -- A wildcard of the request is traded for all the names it stands for, the scope's first.
  have named : ∀ resourceId, resourceId ≠ anyResource →
      (wanted.resourceId = anyResource ∨ wanted.resourceId = resourceId) →
      SomeAllows granted resourceId scope := by
    intro resourceId resource onResource
    by_cases wildcard : scope = anyScope
    · subst wildcard
      exact someAllows_anyScope_iff.mpr fun other named =>
        included resourceId other resource named ⟨onResource, .inr listed⟩
    · exact included resourceId scope resource wildcard ⟨onResource, .inl listed⟩
  by_cases wildcard : wanted.resourceId = anyResource
  · rw [wildcard]
    exact someAllows_anyResource_iff.mpr fun resourceId resource =>
      named resourceId resource (.inl wildcard)
  · exact named wanted.resourceId wildcard (.inr rfl)

theorem covers_trans (each : ∀ step ∈ between, covers granted step = true)
    (covered : covers between wanted = true) : covers granted wanted = true := by
  refine covers_iff_listed.mpr fun scope listed => ?_
  obtain ⟨step, member, allows⟩ := covers_iff_listed.mp covered scope listed
  exact someAllows_of_covers (each step member) allows

theorem covers_regroups (regroups : Regroups granted regrouped) :
    covers regrouped wanted = covers granted wanted := by
  rw [Bool.eq_iff_iff, covers_iff_listed, covers_iff_listed]
  simp only [regroups.someAllows_iff]

theorem covers_restricts (restricts : fewer.Restricts wanted)
    (covered : covers granted wanted = true) : covers granted fewer = true := by
  refine covers_iff_listed.mpr fun scope listed => ?_
  rw [restricts.1]
  exact covers_iff_listed.mp covered scope (restricts.2 listed)

/-- The wildcard permission is covered by a wildcard grant only. -/
theorem covers_any_iff : covers granted Permission.any = true ↔
    ∃ grant ∈ granted, grant.resourceId = anyResource ∧ anyScope ∈ grant.resourceScopes := by
  simp [covers_iff_listed, Permission.any, Permission.of, SomeAllows, Allows]

theorem covers_of_covers_any (covered : covers granted Permission.any = true) :
    covers granted wanted = true :=
  covers_iff_listed.mpr fun _ _ => someAllows_of_covers covered any_allows

/-- Coverage is a preorder with wildcards on top. It is inclusion of what is allowed, whatever
wildcards the grants and the request have. Grants that cover others cover all that those cover, and
grants cover themselves. With more grants no less is covered, and the same with the grants reordered
or split by scope. What is left of a covered request without some of its scopes is covered. The
wildcard permission covers everything, and grants cover everything exactly if one of them has both
wildcards. -/
theorem covers_preorder (granted between : List Permission) (wanted : Permission) :
    (covers granted wanted = true ↔
      ∀ resourceId scope, resourceId ≠ anyResource → scope ≠ anyScope →
        wanted.Allows resourceId scope → SomeAllows granted resourceId scope) ∧
    ((∀ step ∈ between, covers granted step = true) → covers between wanted = true →
      covers granted wanted = true) ∧
    (wanted ∈ granted → covers granted wanted = true) ∧
    (∀ more, granted ⊆ more → covers granted wanted = true → covers more wanted = true) ∧
    (∀ regrouped, Regroups granted regrouped → covers regrouped wanted = covers granted wanted) ∧
    (∀ fewer : Permission, fewer.Restricts wanted → covers granted wanted = true →
      covers granted fewer = true) ∧
    (Permission.any ∈ granted → covers granted wanted = true) ∧
    ((∀ other, covers granted other = true) ↔
      ∃ grant ∈ granted, grant.resourceId = anyResource ∧ anyScope ∈ grant.resourceScopes) := by
  refine ⟨covers_iff_allows, covers_trans, covers_of_mem, fun _ => covers_mono,
    fun _ => covers_regroups, fun _ => covers_restricts,
    fun listed => covers_of_covers_any (covers_of_mem listed), ?_⟩
  rw [← covers_any_iff]
  exact ⟨fun all => all .any, fun top _ => covers_of_covers_any top⟩

/-! ## A museum whose guide hands on what the curator grants -/

namespace Museum

def curator : List Permission :=
  [.of anyResource ["view"], .of "vault" [anyScope], .of "globe" ["lend", "print"]]

/-- Both wildcards are handed on, and the scopes on the globe come from two grants. -/
def guide : List Permission :=
  [.of "vault" ["print", anyScope], .of anyResource ["view"], .of "globe" ["view", "lend"]]

def asked : Permission := .of "vault" ["view", anyScope]

/-- The grants of the curator with the globe's scopes apart, in another order. -/
def ledger : List Permission :=
  [.of "globe" ["print"], .of "vault" [anyScope], .of "globe" ["lend"], .of anyResource ["view"]]

theorem curator_regroups : Regroups curator ledger :=
  ⟨_, .cons (splitsInto_self _) (.cons (splitsInto_self _)
    (.cons (splitsInto_retainScopes _ (· = "lend")) .nil)), by decide⟩

end Museum

theorem covers_preorder_museum :
    ((∀ step ∈ Museum.guide, covers Museum.curator step = true) ∧
      covers Museum.guide Museum.asked = true ∧ covers Museum.curator Museum.asked = true) ∧
    (Museum.asked.Allows "vault" "clean" ∧ SomeAllows Museum.curator "vault" "clean") ∧
    (Regroups Museum.curator Museum.ledger ∧ covers Museum.ledger Museum.asked = true) ∧
    covers Museum.curator (.of "vault" [anyScope]) = true ∧
    (Museum.curator ⊆ .any :: Museum.curator ∧ covers (.any :: Museum.curator) Museum.asked = true) ∧
    (∀ step ∈ Museum.guide, covers Museum.guide step = true) ∧
    ∀ other, covers [.any, .of "globe" []] other = true := by
  have each : ∀ step ∈ Museum.guide, covers Museum.curator step = true := by decide
  have handed : covers Museum.guide Museum.asked = true := by decide
  obtain ⟨exact, trans, -, adding, regrouping, removing, -⟩ :=
    covers_preorder Museum.curator Museum.guide Museum.asked
  have covered := trans each handed
  have allows : Museum.asked.Allows "vault" "clean" := ⟨.inr rfl, .inr (by decide)⟩
  have more : Museum.curator ⊆ .any :: Museum.curator := List.subset_cons_self _ _
  refine ⟨⟨each, handed, covered⟩,
    ⟨allows, exact.mp covered _ _ (by decide) (by decide) allows⟩,
    ⟨Museum.curator_regroups, (regrouping _ Museum.curator_regroups).trans covered⟩,
    removing _ ⟨rfl, by decide⟩ covered, ⟨more, adding _ more covered⟩,
    fun step listed => ?_, fun other => ?_⟩
  · obtain ⟨-, -, self, -⟩ := covers_preorder Museum.guide [] step
    exact self listed
  · obtain ⟨-, -, -, -, -, -, top, -⟩ := covers_preorder [.any, .of "globe" []] [] other
    exact top List.mem_cons_self

end UmaGrant
