import Mathlib.Data.List.Forall2
import Mathlib.Data.List.Nodup
import UmaGrant.Authorizer
import UmaGrant.Proofs.Consultation
/-! # Decisions by a policy engine are exact

A policy engine is asked one question for each scope that has an action, in the order of the query.
The answers decide: either all questions are answered, and a scope is granted if and only if its answer
is that a permission is in force, or the first one that fails ends the decision with its error.
-/

namespace UmaGrant

/-! ## Questions in order -/

/-- Whether a computation is the asking of certain questions in order. It ends with a value that fits if
all of them are answered, and else, with the first one that is not, in the error of that one. -/
inductive PolicyEngine.Asks {α : Type} (engine : PolicyEngine) (questions : List PolicyRequest)
    (fits : α → Prop) (computation : Consult α) : Prop
  | answered (value : α) (answers : ∀ question ∈ questions, ∃ verdict, engine.judge question = .ok verdict)
    (outcome : computation.outcome = .ok value) (fit : fits value)
    (asked : computation.log = questions.map .verdict)
  | failed (before : List PolicyRequest) (failing : PolicyRequest) (after : List PolicyRequest)
    (error : GrantError) (split : questions = before ++ failing :: after)
    (answers : ∀ question ∈ before, ∃ verdict, engine.judge question = .ok verdict)
    (failure : engine.judge failing = .error error) (outcome : computation.outcome = .error error)
    (asked : computation.log = (before ++ [failing]).map .verdict)

namespace PolicyEngine.Asks

variable {α β : Type} {engine : PolicyEngine} {questions more : List PolicyRequest}
  {fits : α → Prop} {computation : Consult α}

theorem pure {value : α} (fit : fits value) : engine.Asks [] fits (pure value) :=
  .answered value (List.forall_mem_nil _) rfl fit rfl

/-- What is asked first and what is asked then is asked one after the other. -/
theorem bind {fitsThen : β → Prop} {next : α → Consult β} (first : engine.Asks questions fits computation)
    (onward : ∀ value, fits value → engine.Asks more fitsThen (next value)) :
    engine.Asks (questions ++ more) fitsThen (computation >>= next) := by
  cases first with
  | failed before failing after error split answers failure outcome asked =>
    refine .failed before failing (after ++ more) error (by simp [split]) answers failure ?_ ?_
    · rw [Consult.outcome_bind, outcome]
    · rw [Consult.log_bind, outcome, asked, List.append_nil]
  | answered value answers outcome fit asked =>
    cases onward value fit with
    | answered result answersThen outcomeThen fitThen askedThen =>
      refine .answered result (List.forall_mem_append.mpr ⟨answers, answersThen⟩) ?_ fitThen ?_
      · rw [Consult.outcome_bind, outcome]
        exact outcomeThen
      · rw [Consult.log_bind, outcome, asked, List.map_append]
        exact congrArg _ askedThen
    | failed before failing after error split answersThen failure outcomeThen askedThen =>
      refine .failed (questions ++ before) failing after error (by simp [split])
        (List.forall_mem_append.mpr ⟨answers, answersThen⟩) failure ?_ ?_
      · rw [Consult.outcome_bind, outcome]
        exact outcomeThen
      · rw [Consult.log_bind, outcome, asked, List.append_assoc, List.map_append]
        exact congrArg _ askedThen

/-- A question that is put to the engine. -/
theorem ask (question : PolicyRequest) :
    engine.Asks [question] (fun verdict => engine.judge question = .ok verdict) (engine.ask question) := by
  rcases judged : engine.judge question with error | verdict
  · exact .failed [] question [] error rfl (List.forall_mem_nil _) judged judged rfl
  · exact .answered verdict (List.forall_mem_singleton.mpr ⟨verdict, judged⟩) judged rfl rfl

end PolicyEngine.Asks

namespace PolicySet

variable {policies : PolicySet} {claims : Claims} {permission granted : Permission}
  {decided : List String} {scope : String}

/-- The questions that a permission raises: one for each time that it has a scope with an action. -/
def questions (policies : PolicySet) (claims : Claims) (permission : Permission) : List PolicyRequest :=
  permission.resourceScopes.filterMap fun scope =>
    (policies.vocabulary.action? scope).map fun action => request claims permission action

/-- Whether the engine says that a permission is in force for the action of a scope. -/
def Permits (policies : PolicySet) (claims : Claims) (permission : Permission) (scope : String) : Prop :=
  ∃ action, policies.vocabulary.action? scope = some action ∧
    policies.engine.judge (request claims permission action) = .ok .activePermission

/-! ## One permission -/

/-- Whether a grant is what is left of a permission of which some scopes have been decided: those of
them that are permitted, each of them once and in the order in which they come first. -/
structure Leaves (policies : PolicySet) (claims : Claims) (permission : Permission) (decided : List String)
    (granted : Permission) : Prop where
  resourceId : granted.resourceId = permission.resourceId
  exact : ∀ scope, scope ∈ granted.resourceScopes ↔
    scope ∈ decided ∧ policies.Permits claims permission scope
  nodup : granted.resourceScopes.Nodup
  ordered : granted.resourceScopes.Pairwise fun earlier later =>
    decided.idxOf earlier < decided.idxOf later
  policies : granted.policies = permission.policies

theorem leaves_nil : policies.Leaves claims permission [] (permission.retainScopes fun _ => false) where
  resourceId := rfl
  exact := by simp [Permission.retainScopes]
  nodup := by simp [Permission.retainScopes, List.filter_false]
  ordered := by simp [Permission.retainScopes, List.filter_false]
  policies := rfl

namespace Leaves

/-- A scope that is decided after others leaves the order of those as it is. -/
theorem ordered_append (leaves : policies.Leaves claims permission decided granted) (more : List String) :
    granted.resourceScopes.Pairwise fun earlier later =>
      (decided ++ more).idxOf earlier < (decided ++ more).idxOf later := by
  refine leaves.ordered.imp_of_mem fun {earlier later} first second before => ?_
  rwa [List.idxOf_append_of_mem ((leaves.exact earlier).mp first).1,
    List.idxOf_append_of_mem ((leaves.exact later).mp second).1]

/-- A scope that is not permitted is left out. -/
theorem skip (leaves : policies.Leaves claims permission decided granted)
    (refused : ¬ policies.Permits claims permission scope) :
    policies.Leaves claims permission (decided ++ [scope]) granted where
  resourceId := leaves.resourceId
  exact other := by
    rw [leaves.exact, List.mem_append, List.mem_singleton]
    refine and_congr_left fun permits => ⟨.inl, fun among => among.resolve_right ?_⟩
    rintro rfl
    exact refused permits
  nodup := leaves.nodup
  ordered := leaves.ordered_append [scope]
  policies := leaves.policies

/-- A scope that is permitted comes last, unless it has come before. -/
theorem add (leaves : policies.Leaves claims permission decided granted)
    (permits : policies.Permits claims permission scope) :
    policies.Leaves claims permission (decided ++ [scope]) (granted.addScope scope) := by
  by_cases present : scope ∈ granted.resourceScopes
  · have kept : granted.addScope scope = granted := by simp [Permission.addScope, present]
    rw [kept]
    refine ⟨leaves.resourceId, fun other => ?_, leaves.nodup, leaves.ordered_append _, leaves.policies⟩
    rw [leaves.exact, List.mem_append, List.mem_singleton]
    refine and_congr_left fun _ => ⟨.inl, fun among => among.elim id ?_⟩
    rintro rfl
    exact ((leaves.exact other).mp present).1
  · have grown : granted.addScope scope =
        { granted with resourceScopes := granted.resourceScopes ++ [scope] } := by
      simp [Permission.addScope, present]
    have unseen : scope ∉ decided := fun seen => present ((leaves.exact scope).mpr ⟨seen, permits⟩)
    rw [grown]
    refine ⟨leaves.resourceId, fun other => ?_, ?_, ?_, leaves.policies⟩
    · rw [List.mem_append, leaves.exact, List.mem_append, List.mem_singleton, or_and_right]
      refine or_congr_right ⟨?_, And.left⟩
      rintro rfl
      exact ⟨rfl, permits⟩
    · simpa using leaves.nodup.concat present
    · refine List.pairwise_append.mpr ⟨leaves.ordered_append _, List.pairwise_singleton _ scope, ?_⟩
      intro other member last among
      rw [List.mem_singleton.mp among]
      have before : other ∈ decided := ((leaves.exact other).mp member).1
      rw [List.idxOf_append_of_mem before, List.idxOf_append_of_notMem unseen]
      exact Nat.lt_add_right _ (List.idxOf_lt_length_of_mem before)

end Leaves

/-- Deciding on the scopes that are left asks the questions that are left. -/
theorem asks_grantScopes (leaves : policies.Leaves claims permission decided granted)
    (scopes : List String) :
    policies.engine.Asks
      (scopes.filterMap fun scope =>
        (policies.vocabulary.action? scope).map fun action => request claims permission action)
      (policies.Leaves claims permission (decided ++ scopes))
      (policies.grantScopes claims permission granted scopes) := by
  induction scopes generalizing decided granted with
  | nil => exact .pure (by rwa [List.append_nil])
  | cons scope rest ih =>
    have shift : decided ++ scope :: rest = decided ++ [scope] ++ rest := by simp
    rw [shift]
    cases known : policies.vocabulary.action? scope with
    | none =>
      simp only [List.filterMap_cons, known, Option.map_none, grantScopes]
      refine ih (leaves.skip ?_)
      rintro ⟨action, found, -⟩
      cases known.symm.trans found
    | some action =>
      simp only [List.filterMap_cons, known, Option.map_some, grantScopes]
      refine .bind (.ask _) fun verdict judged => ih ?_
      by_cases active : verdict = .activePermission
      · rw [if_pos active]
        exact leaves.add ⟨action, known, active ▸ judged⟩
      · rw [if_neg active]
        refine leaves.skip ?_
        rintro ⟨other, found, permitted⟩
        cases known.symm.trans found
        exact active (Except.ok.inj (judged.symm.trans permitted))

/-! ## A query -/

/-- What is granted for a permission: what is left of it once all its scopes are decided. -/
def Grants (policies : PolicySet) (claims : Claims) (wanted granted : Permission) : Prop :=
  policies.Leaves claims wanted wanted.resourceScopes granted

theorem asks_decideAll (asked : List Permission) :
    policies.engine.Asks (asked.flatMap (policies.questions claims))
      (List.Forall₂ (policies.Grants claims) asked) (policies.decideAll claims asked) := by
  induction asked with
  | nil => exact .pure .nil
  | cons permission rest ih =>
    rw [List.flatMap_cons]
    refine .bind (asks_grantScopes leaves_nil permission.resourceScopes) fun granted fits => ?_
    rw [← List.append_nil (rest.flatMap _)]
    exact .bind ih fun more fitting => .pure (.cons fits fitting)

/-- Every question is about a scope of the query that has an action, and it is asked for the WebID that
is claimed, if that is a string. -/
theorem questions_faithful {asked : List Permission} {question : PolicyRequest}
    (raised : question ∈ asked.flatMap (policies.questions claims)) :
    (∃ permission ∈ asked, ∃ scope ∈ permission.resourceScopes,
      question.resource = permission.resourceId ∧
        policies.vocabulary.action? scope = some question.action) ∧
      question.claims = claims ∧
      ∀ webId, question.subject = some webId ↔ claims.get? ClaimType.webId = some (.string webId) := by
  obtain ⟨permission, member, raised⟩ := List.mem_flatMap.mp raised
  obtain ⟨scope, among, raised⟩ := List.mem_filterMap.mp raised
  obtain ⟨action, known, rfl⟩ := Option.map_eq_some_iff.mp raised
  refine ⟨⟨permission, member, scope, among, rfl, known⟩, rfl, fun webId => ?_⟩
  change (claims.get? ClaimType.webId).bind Json.string? = some webId ↔ _
  rcases claims.get? ClaimType.webId with _ | shown
  · simp
  · cases shown <;> simp [Json.string?]

end PolicySet

namespace Authorizer

/-- A policy engine decides a query exactly. It is asked one question for each time that the query has a
scope with an action, in the order of the query and up to the first that fails, and about nothing else.
If a question fails, its error is the outcome. Else each permission of the query is granted, in order,
with its resource and policies and with those of its scopes that are permitted. -/
theorem policy_exact (descriptions : Descriptions) (policies : PolicySet) (claims : Claims)
    (asked : List Permission) :
    policies.engine.Asks (asked.flatMap (policies.questions claims))
        (List.Forall₂ (policies.Grants claims) asked)
        (permissions descriptions claims (some asked) (.policy policies)) ∧
      ∀ question ∈ asked.flatMap (policies.questions claims),
        (∃ permission ∈ asked, ∃ scope ∈ permission.resourceScopes,
          question.resource = permission.resourceId ∧
            policies.vocabulary.action? scope = some question.action) ∧
        question.claims = claims ∧
        ∀ webId, question.subject = some webId ↔ claims.get? ClaimType.webId = some (.string webId) := by
  refine ⟨?_, fun question => PolicySet.questions_faithful⟩
  rw [permissions]
  exact PolicySet.asks_decideAll asked

/-- A scope that is asked for twice is judged twice and granted once; a scope without an action is not
judged. -/
example :
    let policies : PolicySet := ⟨⟨fun _ => .ok .activePermission⟩, .odrl⟩
    let decision := policies.decide .empty (.of "notes" [Scope.read, "urn:unknown", Scope.read])
    decision.outcome = .ok (.of "notes" [Scope.read]) ∧ decision.log.length = 2 := ⟨rfl, rfl⟩

end Authorizer

end UmaGrant
