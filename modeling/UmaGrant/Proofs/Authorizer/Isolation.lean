import Mathlib.Tactic.ByContra
import UmaGrant.Authorizer
import UmaGrant.Proofs.Consultation
/-! # Namespaces isolate authorizers

Two kinds of authorizers stand around others: the one gives away public namespaces and leaves the rest to
the authorizer inside, the other chooses an authorizer by the namespace of a query. Each of them leaves a
query, or a part of it, to one other authorizer at most, or concludes by itself. However they are nested,
the authorizer at any place in the nesting is asked once at most, and only about resources that all the
authorizers around it let through.
-/

namespace UmaGrant

/-! ## Where resources belong -/

namespace Descriptions

variable {descriptions : Descriptions} {asked : List Permission} {permission : Permission}
  {error : GrantError}

/-- The namespace of the resource of a permission, if it is found and is in one. -/
def home (descriptions : Descriptions) (permission : Permission) : Option String :=
  (descriptions.namespaceOf permission.resourceId).toOption.join

/-- Whether the look-ups of all resources succeed. -/
def Locates (descriptions : Descriptions) (asked : List Permission) : Prop :=
  ∀ permission ∈ asked,
    descriptions.namespaceOf permission.resourceId = .ok (descriptions.home permission)

/-- Whether the first of the look-ups that does not succeed ends in an error. -/
inductive FailsOn (descriptions : Descriptions) (error : GrantError) : List Permission → Prop
  | here (permission : Permission) (rest : List Permission)
    (failure : descriptions.namespaceOf permission.resourceId = .error error) :
    FailsOn descriptions error (permission :: rest)
  | later (permission : Permission) (rest : List Permission)
    (found : descriptions.namespaceOf permission.resourceId = .ok (descriptions.home permission))
    (fails : FailsOn descriptions error rest) : FailsOn descriptions error (permission :: rest)

theorem locates_cons : descriptions.Locates (permission :: asked) ↔
    descriptions.namespaceOf permission.resourceId = .ok (descriptions.home permission) ∧
      descriptions.Locates asked :=
  List.forall_mem_cons

/-- Either all look-ups succeed, or there is a first one that does not. -/
theorem locates_or_failsOn (descriptions : Descriptions) (asked : List Permission) :
    descriptions.Locates asked ∨ ∃ error, descriptions.FailsOn error asked := by
  induction asked with
  | nil => exact .inl (List.forall_mem_nil _)
  | cons permission rest ih =>
    cases lookup : descriptions.namespaceOf permission.resourceId with
    | error error => exact .inr ⟨error, .here permission rest lookup⟩
    | ok name =>
      have found : descriptions.namespaceOf permission.resourceId =
          .ok (descriptions.home permission) := by
        rw [home, lookup]
        rfl
      rcases ih with locates | ⟨error, fails⟩
      · exact .inl (locates_cons.mpr ⟨found, locates⟩)
      · exact .inr ⟨error, .later permission rest found fails⟩

end Descriptions

namespace Authorizer

open Descriptions

variable {descriptions : Descriptions} {asked passed further : List Permission} {error : GrantError}

/-- Whether a permission is on a resource in one of certain namespaces. -/
def isPublic (descriptions : Descriptions) (namespaces : List String) (permission : Permission) : Bool :=
  (descriptions.home permission).any namespaces.contains

theorem splitPublic_eq_ok (namespaces : List String) (locates : descriptions.Locates asked) :
    splitPublic descriptions namespaces asked =
      .ok (asked.filter (isPublic descriptions namespaces),
        asked.filter fun permission => !isPublic descriptions namespaces permission) := by
  induction asked with
  | nil => rfl
  | cons permission rest ih =>
    obtain ⟨found, locates⟩ := locates_cons.mp locates
    rw [splitPublic, found, ih locates]
    change (if isPublic descriptions namespaces permission = true then _ else _) = _
    cases shared : isPublic descriptions namespaces permission <;> simp [shared]

theorem splitPublic_eq_error (namespaces : List String) (fails : descriptions.FailsOn error asked) :
    splitPublic descriptions namespaces asked = .error error := by
  induction fails with
  | here permission rest failure =>
    rw [splitPublic, failure]
    rfl
  | later permission rest found _ ih =>
    rw [splitPublic, found, ih]
    rfl

theorem homes_eq_ok (locates : descriptions.Locates asked) :
    homes descriptions asked = .ok (asked.map descriptions.home) := by
  induction asked with
  | nil => rfl
  | cons permission rest ih =>
    obtain ⟨found, locates⟩ := locates_cons.mp locates
    rw [homes, found, ih locates]
    rfl

theorem homes_eq_error (fails : descriptions.FailsOn error asked) :
    homes descriptions asked = .error error := by
  induction fails with
  | here permission rest failure =>
    rw [homes, failure]
    rfl
  | later permission rest found _ ih =>
    rw [homes, found, ih]
    rfl

theorem homeOf_eq_error (fails : descriptions.FailsOn error asked) :
    homeOf descriptions asked = .error error := by
  rw [homeOf, homes_eq_error fails]
  rfl

theorem homeOf_eq_mixed (locates : descriptions.Locates asked) {one other : Permission}
    (first : one ∈ asked) (second : other ∈ asked)
    (apart : descriptions.home one ≠ descriptions.home other) :
    homeOf descriptions asked = .ok .mixed := by
  rw [homeOf, homes_eq_ok locates]
  cases asked with
  | nil => exact absurd first List.not_mem_nil
  | cons permission rest =>
    have differs : ¬ (rest.map descriptions.home).all (· = descriptions.home permission) = true := by
      intro same
      have alike : ∀ wanted ∈ permission :: rest,
          descriptions.home wanted = descriptions.home permission := by
        simpa using same
      exact apart ((alike one first).trans (alike other second).symm)
    change Except.ok (if _ then _ else _) = _
    rw [if_neg differs]

theorem homeOf_eq_single (locates : descriptions.Locates asked) {home : Option String}
    (same : ∀ permission ∈ asked, descriptions.home permission = home)
    (nowhere : asked = [] → home = none) : homeOf descriptions asked = .ok (.single home) := by
  rw [homeOf, homes_eq_ok locates]
  cases asked with
  | nil =>
    rw [nowhere rfl]
    rfl
  | cons permission rest =>
    obtain ⟨here, there⟩ := List.forall_mem_cons.mp same
    change Except.ok (if _ then _ else _) = _
    rw [if_pos (by simpa [here] using there), here]

/-! ## Leaving a query to another authorizer -/

/-- Whether a query has fixed answers, whoever asks and whatever claims there are. -/
structure Concludes (descriptions : Descriptions) (asked : List Permission) (whole : Authorizer)
    (granted : Consult (List Permission)) (offered : Consult (List Requirements)) : Prop where
  grants : ∀ claims, permissions descriptions claims (some asked) whole = granted
  offers : ∀ known, credentials descriptions asked known whole = offered

/-- Whether an authorizer leaves a part of a query to another one. To what it gives by itself it adds what
the other one gives, and what it offers is what the other one offers. Nobody else is asked on the way. -/
structure Defers (descriptions : Descriptions) (asked : List Permission) (whole : Authorizer)
    (shared passed : List Permission) (part : Authorizer) : Prop where
  grants : ∀ claims, permissions descriptions claims (some asked) whole = do
    let granted ← permissions descriptions claims (some passed) part
    pure (shared ++ granted)
  offers : ∀ known, credentials descriptions asked known whole = credentials descriptions passed known part

/-- Whether two authorizers answer a query alike. -/
structure Alike (descriptions : Descriptions) (asked : List Permission) (one other : Authorizer) :
    Prop where
  grants : ∀ claims,
    permissions descriptions claims (some asked) one = permissions descriptions claims (some asked) other
  offers : ∀ known, credentials descriptions asked known one = credentials descriptions asked known other

variable {whole part inner one other : Authorizer} {shared more : List Permission}

theorem Concludes.alike {granted : Consult (List Permission)} {offered : Consult (List Requirements)}
    (first : Concludes descriptions asked one granted offered)
    (second : Concludes descriptions asked other granted offered) : Alike descriptions asked one other where
  grants claims := (first.grants claims).trans (second.grants claims).symm
  offers known := (first.offers known).trans (second.offers known).symm

theorem Alike.defers (alike : Alike descriptions asked one other) :
    Defers descriptions asked one [] asked other where
  grants claims := by simpa using alike.grants claims
  offers := alike.offers

theorem Alike.refl (descriptions : Descriptions) (asked : List Permission) (whole : Authorizer) :
    Alike descriptions asked whole whole := ⟨fun _ => rfl, fun _ => rfl⟩

theorem Defers.refl (descriptions : Descriptions) (asked : List Permission) (whole : Authorizer) :
    Defers descriptions asked whole [] asked whole :=
  (Alike.refl descriptions asked whole).defers

theorem Defers.trans (first : Defers descriptions asked whole shared passed part)
    (second : Defers descriptions passed part more further inner) :
    Defers descriptions asked whole (shared ++ more) further inner where
  grants claims := by
    rw [first.grants, second.grants, bind_assoc]
    simp only [pure_bind, List.append_assoc]
  offers known := (first.offers known).trans (second.offers known)

/-- Authorizers that leave the same part to authorizers that answer it alike answer alike. -/
theorem Defers.alike (first : Defers descriptions asked one shared passed part)
    (second : Defers descriptions asked other shared passed inner)
    (alike : Alike descriptions passed part inner) : Alike descriptions asked one other where
  grants claims := by rw [first.grants, second.grants, alike.grants]
  offers known := by rw [first.offers, second.offers, alike.offers]

/-! ## Carving out public namespaces -/

/-- What an authorizer with public namespaces does with every query. -/
structure CarvesOut (descriptions : Descriptions) (namespaces : List String) (inner : Authorizer) :
    Prop where
  /-- If a look-up fails, so does the query. -/
  failed : ∀ asked error, descriptions.FailsOn error asked →
    Concludes descriptions asked (.publicNamespaces namespaces inner) (Consult.fail error)
      (Consult.fail error)
  /-- If all is public, all is given as it is, and nobody is asked. -/
  shared : ∀ asked, descriptions.Locates asked →
    (∀ permission ∈ asked, isPublic descriptions namespaces permission = true) →
    Concludes descriptions asked (.publicNamespaces namespaces inner) (pure asked) (pure [.empty])
  /-- Else what is public is given as it is, and the rest is left to the authorizer inside. -/
  guarded : ∀ asked, descriptions.Locates asked →
    (∃ permission ∈ asked, isPublic descriptions namespaces permission = false) →
    Defers descriptions asked (.publicNamespaces namespaces inner)
      (asked.filter (isPublic descriptions namespaces))
      (asked.filter fun permission => !isPublic descriptions namespaces permission) inner

theorem carvesOut (descriptions : Descriptions) (namespaces : List String) (inner : Authorizer) :
    CarvesOut descriptions namespaces inner where
  failed asked error fails := by
    constructor <;> intro _
    · rw [permissions, splitPublic_eq_error namespaces fails]
      rfl
    · rw [credentials, splitPublic_eq_error namespaces fails]
      rfl
  shared asked locates shared := by
    have all : asked.filter (isPublic descriptions namespaces) = asked := List.filter_eq_self.mpr shared
    have none : (asked.filter fun permission => !isPublic descriptions namespaces permission) = [] :=
      List.filter_eq_nil_iff.mpr (by simpa using shared)
    constructor <;> intro _
    · rw [permissions, splitPublic_eq_ok namespaces locates, all, none]
      rfl
    · rw [credentials, splitPublic_eq_ok namespaces locates, none]
      rfl
  guarded asked locates some := by
    obtain ⟨permission, member, guarded⟩ := some
    have left : ¬ (asked.filter fun permission =>
        !isPublic descriptions namespaces permission).isEmpty = true := by
      rw [List.isEmpty_iff]
      exact List.ne_nil_of_mem (List.mem_filter.mpr ⟨member, by simp [guarded]⟩)
    constructor <;> intro _
    · rw [permissions, splitPublic_eq_ok namespaces locates, Consult.lift_ok_bind]
      exact if_neg left
    · rw [credentials, splitPublic_eq_ok namespaces locates, Consult.lift_ok_bind]
      exact if_neg left

/-! ## Choosing by namespace -/

/-- The authorizer for a namespace, which is the last one for want of another. -/
def authorizerFor (routes : List (String × Authorizer)) (fallback : Authorizer) :
    Option String → Authorizer
  | none => fallback
  | some name => ((routes.find? fun route => route.1 = name).map Prod.snd).getD fallback

theorem routedPermissions_eq (claims : Claims) (query : Option (List Permission)) (name : String)
    (routes : List (String × Authorizer)) :
    routedPermissions descriptions claims query name routes =
      (routes.find? fun route => route.1 = name).map fun route =>
        permissions descriptions claims query route.2 := by
  induction routes with
  | nil => rfl
  | cons route rest ih =>
    rw [routedPermissions, List.find?_cons]
    by_cases same : route.1 = name <;> simp [same, ih]

theorem routedCredentials_eq (known : Option (List String)) (name : String)
    (routes : List (String × Authorizer)) :
    routedCredentials descriptions asked known name routes =
      (routes.find? fun route => route.1 = name).map fun route =>
        credentials descriptions asked known route.2 := by
  induction routes with
  | nil => rfl
  | cons route rest ih =>
    rw [routedCredentials, List.find?_cons]
    by_cases same : route.1 = name <;> simp [same, ih]

/-- What an authorizer that chooses by namespace does with every query. -/
structure RoutesByNamespace (descriptions : Descriptions) (routes : List (String × Authorizer))
    (fallback : Authorizer) : Prop where
  /-- If a look-up fails, so does the query. -/
  failed : ∀ asked error, descriptions.FailsOn error asked →
    Concludes descriptions asked (.byNamespace routes fallback) (Consult.fail error) (Consult.fail error)
  /-- If two resources are in different namespaces, nothing is given and nothing is offered. -/
  refused : ∀ asked, descriptions.Locates asked →
    (∃ one ∈ asked, ∃ other ∈ asked, descriptions.home one ≠ descriptions.home other) →
    Concludes descriptions asked (.byNamespace routes fallback) (pure []) (pure [])
  /-- Else the whole query is left to one authorizer. -/
  handed : ∀ asked home, descriptions.Locates asked →
    (∀ permission ∈ asked, descriptions.home permission = home) → (asked = [] → home = none) →
    Defers descriptions asked (.byNamespace routes fallback) [] asked (authorizerFor routes fallback home)

theorem routesByNamespace (descriptions : Descriptions) (routes : List (String × Authorizer))
    (fallback : Authorizer) : RoutesByNamespace descriptions routes fallback where
  failed asked error fails := by
    constructor <;> intro _
    · rw [permissions, homeOf_eq_error fails]
      rfl
    · rw [credentials, homeOf_eq_error fails]
      rfl
  refused asked locates apart := by
    obtain ⟨one, first, other, second, apart⟩ := apart
    constructor <;> intro _
    · rw [permissions, homeOf_eq_mixed locates first second apart]
      rfl
    · rw [credentials, homeOf_eq_mixed locates first second apart]
      rfl
  handed asked home locates same nowhere := by
    refine Alike.defers ⟨fun claims => ?_, fun known => ?_⟩
    · rw [permissions, homeOf_eq_single locates same nowhere, Consult.lift_ok_bind]
      cases home with
      | none => rfl
      | some name =>
        dsimp only
        rw [routedPermissions_eq, authorizerFor]
        cases routes.find? fun route => route.1 = name <;> rfl
    · rw [credentials, homeOf_eq_single locates same nowhere, Consult.lift_ok_bind]
      cases home with
      | none => rfl
      | some name =>
        dsimp only
        rw [routedCredentials_eq, authorizerFor]
        cases routes.find? fun route => route.1 = name <;> rfl

/-- The authorizer for a namespace is the named one, if none before it has the name, or does not depend on
that one. -/
theorem authorizerFor_route (before after : List (String × Authorizer)) (name : String)
    (fallback : Authorizer) (home : Option String) :
    (home = some name ∧
        ∀ part, authorizerFor (before ++ (name, part) :: after) fallback home = part) ∨
      ∀ part other, authorizerFor (before ++ (name, part) :: after) fallback home =
        authorizerFor (before ++ (name, other) :: after) fallback home := by
  cases home with
  | none => exact .inr fun _ _ => rfl
  | some wanted =>
    cases earlier : before.find? fun route => route.1 = wanted with
    | some route =>
      refine .inr fun part other => ?_
      rw [authorizerFor, authorizerFor, List.find?_append, List.find?_append, earlier]
      rfl
    | none =>
      by_cases same : name = wanted
      · refine .inl ⟨congrArg some same.symm, fun part => ?_⟩
        rw [authorizerFor, List.find?_append, earlier, List.find?_cons_of_pos (by simpa using same)]
        rfl
      · refine .inr fun part other => ?_
        rw [authorizerFor, authorizerFor, List.find?_append, List.find?_append,
          List.find?_cons_of_neg (by simpa using same), List.find?_cons_of_neg (by simpa using same)]

/-- The authorizer for a namespace is the last one, if the namespace is none of the named ones, or does not
depend on that one. -/
theorem authorizerFor_fallback (routes : List (String × Authorizer)) (home : Option String) :
    ((∀ route ∈ routes, home ≠ some route.1) ∧ ∀ part, authorizerFor routes part home = part) ∨
      ∀ part other, authorizerFor routes part home = authorizerFor routes other home := by
  cases home with
  | none => exact .inl ⟨fun _ _ => nofun, fun _ => rfl⟩
  | some wanted =>
    cases found : routes.find? fun route => route.1 = wanted with
    | some route =>
      refine .inr fun part other => ?_
      rw [authorizerFor, authorizerFor, found]
      rfl
    | none =>
      refine .inl ⟨fun route member same => ?_, fun part => ?_⟩
      · exact List.find?_eq_none.mp found route member (by simpa using (Option.some.inj same).symm)
      · rw [authorizerFor, found]
        rfl

/-! ## Places in a nesting -/

/-- A place for an authorizer, inside other authorizers. -/
inductive Place where
  /-- No other authorizer is around. -/
  | here
  /-- Inside an authorizer with public namespaces. -/
  | guarded (namespaces : List String) (within : Place)
  /-- Inside the authorizer for a namespace. -/
  | routed (before : List (String × Authorizer)) (name : String) (within : Place)
    (after : List (String × Authorizer)) (fallback : Authorizer)
  /-- Inside the authorizer for all other namespaces. -/
  | otherwise (routes : List (String × Authorizer)) (within : Place)

namespace Place

/-- The whole nesting, with an authorizer in the place. -/
def fill (part : Authorizer) : Place → Authorizer
  | here => part
  | guarded namespaces within => .publicNamespaces namespaces (within.fill part)
  | routed before name within after fallback =>
    .byNamespace (before ++ (name, within.fill part) :: after) fallback
  | otherwise routes within => .byNamespace routes (within.fill part)

/-- Whether all the authorizers around a place let a resource through, for what a look-up of its namespace
finds: it is in no public namespace, and it is in the namespace that the authorizer is for. -/
def Admits (found : Except GrantError (Option String)) : Place → Prop
  | here => True
  | guarded namespaces within =>
    (∃ home, found = .ok home ∧ ∀ name ∈ namespaces, home ≠ some name) ∧ within.Admits found
  | routed _ name within _ _ => found = .ok (some name) ∧ within.Admits found
  | otherwise routes within =>
    (∃ home, found = .ok home ∧ ∀ route ∈ routes, home ≠ some route.1) ∧ within.Admits found

/-- What reaches an authorizer at a place of a query that is put to the whole nesting: a part of the query,
in order and only with resources that are let through, or nothing, and then it does not matter which
authorizer is there. -/
inductive Isolates (descriptions : Descriptions) (asked : List Permission) (place : Place) : Prop
  | reached (shared passed : List Permission) (part : passed.Sublist asked)
    (admitted : ∀ permission ∈ passed, place.Admits (descriptions.namespaceOf permission.resourceId))
    (defers : ∀ inner, Defers descriptions asked (place.fill inner) shared passed inner)
  | unreached (alike : ∀ inner other, Alike descriptions asked (place.fill inner) (place.fill other))

variable {place within : Place}

/-- Resources that are not in different namespaces are in the same one, or none is asked about. -/
theorem exists_home_of_not_apart
    (together : ¬ ∃ one ∈ asked, ∃ other ∈ asked, descriptions.home one ≠ descriptions.home other) :
    ∃ home, (∀ permission ∈ asked, descriptions.home permission = home) ∧ (asked = [] → home = none) := by
  cases asked with
  | nil => exact ⟨none, List.forall_mem_nil _, fun _ => rfl⟩
  | cons first rest =>
    refine ⟨descriptions.home first, fun permission member => ?_, nofun⟩
    by_contra differ
    exact together ⟨permission, member, first, List.mem_cons_self, differ⟩

/-- One more authorizer around a place that leaves a part of its query to what is inside, and lets through
all of that part, isolates the place still. -/
theorem Isolates.inside (isolates : within.Isolates descriptions passed) (part : passed.Sublist asked)
    (admits : ∀ permission ∈ passed, within.Admits (descriptions.namespaceOf permission.resourceId) →
      place.Admits (descriptions.namespaceOf permission.resourceId))
    (defers : ∀ inner, Defers descriptions asked (place.fill inner) shared passed (within.fill inner)) :
    place.Isolates descriptions asked := by
  cases isolates with
  | unreached alike =>
    exact .unreached fun inner other => (defers inner).alike (defers other) (alike inner other)
  | reached more further portion admitted defersInside =>
    exact .reached (shared ++ more) further (portion.trans part)
      (fun permission member => admits permission (portion.subset member) (admitted permission member))
      fun inner => (defers inner).trans (defersInside inner)

theorem isolates_guarded (namespaces : List String) (asked : List Permission)
    (inside : ∀ asked, within.Isolates descriptions asked) :
    (guarded namespaces within).Isolates descriptions asked := by
  have carves := fun inner => carvesOut descriptions namespaces (within.fill inner)
  rcases descriptions.locates_or_failsOn asked with locates | ⟨error, fails⟩
  · by_cases some : ∃ permission ∈ asked, isPublic descriptions namespaces permission = false
    · refine (inside _).inside List.filter_sublist (fun permission member admits => ?_)
        fun inner => (carves inner).guarded asked locates some
      obtain ⟨among, hidden⟩ := List.mem_filter.mp member
      refine ⟨⟨descriptions.home permission, locates permission among, fun name listed same => ?_⟩, admits⟩
      rw [isPublic, same] at hidden
      exact absurd listed (by simpa using hidden)
    · have shared : ∀ permission ∈ asked, isPublic descriptions namespaces permission = true := by
        simpa using some
      exact .unreached fun inner other =>
        ((carves inner).shared asked locates shared).alike ((carves other).shared asked locates shared)
  · exact .unreached fun inner other =>
      ((carves inner).failed asked error fails).alike ((carves other).failed asked error fails)

/-- A choice by namespace isolates a place inside if it hands a query on to it only for a namespace that it
admits, and else to an authorizer that does not depend on what is there. -/
theorem isolates_byNamespace (routes : Authorizer → List (String × Authorizer))
    (fallback : Authorizer → Authorizer) (asked : List Permission)
    (inside : ∀ asked, within.Isolates descriptions asked)
    (filled : ∀ inner, place.fill inner =
      .byNamespace (routes (within.fill inner)) (fallback (within.fill inner)))
    (chosen : ∀ home,
      (∀ part, authorizerFor (routes part) (fallback part) home = part) ∧
          (within.Admits (.ok home) → place.Admits (.ok home)) ∨
        ∀ part other, authorizerFor (routes part) (fallback part) home =
          authorizerFor (routes other) (fallback other) home) :
    place.Isolates descriptions asked := by
  have routing := fun part => routesByNamespace descriptions (routes part) (fallback part)
  rcases descriptions.locates_or_failsOn asked with locates | ⟨error, fails⟩
  · by_cases apart : ∃ one ∈ asked, ∃ other ∈ asked, descriptions.home one ≠ descriptions.home other
    · refine .unreached fun inner other => ?_
      rw [filled, filled]
      exact ((routing _).refused asked locates apart).alike ((routing _).refused asked locates apart)
    · obtain ⟨home, same, nowhere⟩ := exists_home_of_not_apart apart
      have handed := fun part => (routing part).handed asked home locates same nowhere
      rcases chosen home with ⟨own, admits⟩ | independent
      · have through : ∀ inner,
            Defers descriptions asked (place.fill inner) [] asked (within.fill inner) := by
          intro inner
          have direct := handed (within.fill inner)
          rwa [own, ← filled] at direct
        refine (inside asked).inside (.refl asked) (fun permission member => ?_) through
        rw [locates permission member, same permission member]
        exact admits
      · refine .unreached fun inner other => ?_
        rw [filled, filled]
        refine (handed _).alike (handed _) ?_
        rw [independent (within.fill inner) (within.fill other)]
        exact .refl descriptions asked _
  · refine .unreached fun inner other => ?_
    rw [filled, filled]
    exact ((routing _).failed asked error fails).alike ((routing _).failed asked error fails)

/-- Every place is isolated, however deep it is. -/
theorem isolates (place : Place) (asked : List Permission) : place.Isolates descriptions asked := by
  induction place generalizing asked with
  | here =>
    exact .reached [] asked (.refl asked) (fun _ _ => trivial) (Defers.refl descriptions asked)
  | guarded namespaces within ih => exact isolates_guarded namespaces asked ih
  | routed before name within after fallback ih =>
    refine isolates_byNamespace (fun part => before ++ (name, part) :: after) (fun _ => fallback) asked ih
      (fun _ => rfl) fun home => ?_
    refine (authorizerFor_route before after name fallback home).imp_left ?_
    rintro ⟨rfl, own⟩
    exact ⟨own, fun admits => ⟨rfl, admits⟩⟩
  | otherwise routes within ih =>
    refine isolates_byNamespace (fun _ => routes) id asked ih (fun _ => rfl) fun home => ?_
    refine (authorizerFor_fallback routes home).imp_left ?_
    rintro ⟨unnamed, own⟩
    exact ⟨own, fun admits => ⟨⟨home, rfl, unnamed⟩, admits⟩⟩

end Place

/-- Namespaces isolate authorizers, whatever these are and however they are nested over one store of
descriptions. An authorizer with public namespaces gives what is public and leaves exactly the rest, in
order, to the one inside, if there is a rest. A choice by namespace leaves a query to one authorizer, if all
its resources are in the same namespace, and else gives and offers nothing. So an authorizer at any place in
a nesting is asked about no resource in a public namespace around it, and about none of another namespace
than the one that it is for. -/
theorem namespaces_isolate (descriptions : Descriptions) :
    (∀ namespaces inner, CarvesOut descriptions namespaces inner) ∧
      (∀ routes fallback, RoutesByNamespace descriptions routes fallback) ∧
      ∀ (place : Place) (asked : List Permission), place.Isolates descriptions asked :=
  ⟨carvesOut descriptions, routesByNamespace descriptions, Place.isolates⟩

/-! ## A surgery with public leaflets -/

namespace Surgery

def record : Permission := .of "pod:/surgery/medical/record" [Scope.read]

def leaflet : Permission := .of "pod:/surgery/public/leaflet" [Scope.read]

/-- The authorizer for medical resources, behind public ones. -/
def doctors : Place := .guarded ["public"] (.routed [] "medical" .here [] .nobody)

theorem locates : Descriptions.empty.Locates [leaflet, record] := by
  intro permission member
  rcases List.mem_cons.mp member with rfl | member
  · rfl
  · obtain rfl := List.mem_singleton.mp member
    rfl

end Surgery

open Surgery in
theorem namespaces_isolate_surgery :
    Defers .empty [leaflet, record] (.publicNamespaces ["public"] .everyone) [leaflet] [record] .everyone ∧
      Concludes .empty [leaflet, record] (.byNamespace [("medical", .everyone)] .nobody) (pure [])
        (pure []) ∧
      ∀ inner, Defers .empty [leaflet, record] (doctors.fill inner) [leaflet] [record] inner := by
  obtain ⟨carves, routes, isolates⟩ := namespaces_isolate .empty
  refine ⟨?_, ?_, fun inner => ?_⟩
  · have guarded := (carves ["public"] .everyone).guarded [leaflet, record] locates
      ⟨record, by simp, by decide +kernel⟩
    have parts : [leaflet, record].filter (isPublic .empty ["public"]) = [leaflet] ∧
        ([leaflet, record].filter fun permission => !isPublic .empty ["public"] permission) = [record] :=
      ⟨by decide +kernel, by decide +kernel⟩
    rwa [parts.1, parts.2] at guarded
  · have apart : Descriptions.empty.home leaflet ≠ Descriptions.empty.home record := by
      decide +kernel
    exact (routes [("medical", .everyone)] .nobody).refused [leaflet, record] locates
      ⟨leaflet, by simp, record, by simp, apart⟩
  · -- Two authorizers that are told apart from outside show what the place is left with.
    have opened : (permissions .empty .empty (some [leaflet, record]) (doctors.fill .everyone)).outcome =
        .ok [leaflet, record] := rfl
    have closed : (permissions .empty .empty (some [leaflet, record]) (doctors.fill .nobody)).outcome =
        .ok [leaflet] := rfl
    cases isolates doctors [leaflet, record] with
    | unreached alike =>
      rw [(alike .everyone .nobody).grants, closed] at opened
      cases opened
    | reached shared passed _ _ defers =>
      have alone : shared = [leaflet] := by
        rw [(defers .nobody).grants] at closed
        simpa [permissions] using Except.ok.inj closed
      have rest : passed = [record] := by
        rw [(defers .everyone).grants, alone] at opened
        simpa [permissions, grantQuery] using Except.ok.inj opened
      subst alone rest
      exact defers inner

end Authorizer

end UmaGrant
