import Mathlib.Data.List.Induction
import UmaGrant.Authorizer.Vocabulary
import UmaGrant.Proofs.Dict
/-! # Vocabularies pair one to one

A vocabulary is looked up from two sides, and a pair that is added may displace one pair on each. However
a vocabulary has grown, both sides tell the same pairs: those that no later pair has displaced.
-/

namespace UmaGrant.Vocabulary

variable {vocabulary : Vocabulary} {pairs more : List (String × String)} {entry : String × String}

/-- Whether both sides of a vocabulary tell the same pairs. -/
def IsOneToOne (vocabulary : Vocabulary) : Prop :=
  ∀ scope action, vocabulary.action? scope = some action ↔ vocabulary.scope? action = some scope

/-! ## Adding a pair -/

/-- The scopes of the actions, without that of the action that a scope has so far. -/
def freed (vocabulary : Vocabulary) (scope : String) : Dict String :=
  match vocabulary.actions.get? scope with
  | some old => vocabulary.scopes.erase old
  | none => vocabulary.scopes

theorem pair_eq (vocabulary : Vocabulary) (scope action : String) :
    vocabulary.pair scope action =
      ⟨match (vocabulary.freed scope).get? action with
        | some old =>
          if old = scope then vocabulary.actions.insert scope action
          else (vocabulary.actions.insert scope action).erase old
        | none => vocabulary.actions.insert scope action,
        (vocabulary.freed scope).insert action scope⟩ := rfl

/-- A scope whose action is given up is the scope of no action any more. -/
theorem IsOneToOne.get?_freed (oneToOne : vocabulary.IsOneToOne) {scope other action : String} :
    (vocabulary.freed scope).get? action = some other ↔
      other ≠ scope ∧ vocabulary.scope? action = some other := by
  unfold freed
  cases paired : vocabulary.actions.get? scope with
  | none =>
    refine ⟨fun found => ⟨?_, found⟩, And.right⟩
    rintro rfl
    have known : vocabulary.action? other = some action := (oneToOne other action).mpr found
    rw [action?, paired] at known
    cases known
  | some old =>
    have held : vocabulary.scope? old = some scope := (oneToOne scope old).mp paired
    rw [Dict.get?_erase_eq_some_iff]
    refine and_congr_left fun found => not_congr ?_
    constructor
    · rintro rfl
      exact Option.some.inj (found.symm.trans held)
    · rintro rfl
      exact Option.some.inj (((oneToOne _ _).mpr found).symm.trans paired)

/-- Seen from the actions, a new pair is there, and of the others those that share no side with it. -/
theorem IsOneToOne.scope?_pair (oneToOne : vocabulary.IsOneToOne) {scope action other found : String} :
    (vocabulary.pair scope action).scope? other = some found ↔
      (other = action ∧ found = scope) ∨
        (other ≠ action ∧ found ≠ scope ∧ vocabulary.scope? other = some found) := by
  change ((vocabulary.freed scope).insert action scope).get? other = some found ↔ _
  rw [Dict.get?_insert]
  by_cases same : other = action
  · simp [same, eq_comm]
  · simp [same, oneToOne.get?_freed]

/-- Seen from the scopes it is the same. -/
theorem IsOneToOne.action?_pair (oneToOne : vocabulary.IsOneToOne) {scope action other found : String} :
    (vocabulary.pair scope action).action? other = some found ↔
      (other = scope ∧ found = action) ∨
        (other ≠ scope ∧ found ≠ action ∧ vocabulary.action? other = some found) := by
  have inserted : (vocabulary.actions.insert scope action).get? other =
      if other = scope then some action else vocabulary.action? other := Dict.get?_insert ..
  rw [action?, pair_eq]
  cases taken : (vocabulary.freed scope).get? action with
  | none =>
    dsimp only
    rw [inserted]
    by_cases same : other = scope
    · simp [same, eq_comm]
    · -- No other scope has had the action.
      have untaken : vocabulary.action? other = some found → found ≠ action := by
        rintro known rfl
        have still := oneToOne.get?_freed.mpr ⟨same, (oneToOne other found).mp known⟩
        rw [taken] at still
        cases still
      simpa [same] using untaken
  | some old =>
    obtain ⟨differ, held⟩ := oneToOne.get?_freed.mp taken
    have known : vocabulary.action? old = some action := (oneToOne old action).mpr held
    dsimp only
    rw [if_neg differ, Dict.get?_erase_eq_some_iff, inserted]
    by_cases same : other = scope
    · simp [same, differ.symm, eq_comm]
    · have shared : vocabulary.action? other = some found → (other ≠ old ↔ found ≠ action) := by
        intro own
        refine not_congr ⟨?_, ?_⟩
        · rintro rfl
          exact Option.some.inj (own.symm.trans known)
        · rintro rfl
          exact Option.some.inj (((oneToOne _ _).mp own).symm.trans held)
      simpa [same] using and_congr_left shared

/-- Adding a pair keeps a vocabulary one to one. -/
theorem IsOneToOne.pair (oneToOne : vocabulary.IsOneToOne) (scope action : String) :
    (vocabulary.pair scope action).IsOneToOne := by
  intro other found
  rw [oneToOne.action?_pair, oneToOne.scope?_pair, oneToOne other found]
  exact or_congr and_comm and_left_comm

/-! ## Pairs that last -/

/-- Whether a pair displaces another one: the two differ and share a side. -/
def Displaces (later earlier : String × String) : Prop :=
  later ≠ earlier ∧ (later.1 = earlier.1 ∨ later.2 = earlier.2)

/-- Whether a pair has been added and not been displaced by one that was added later. -/
def Lasts (pairs : List (String × String)) (entry : String × String) : Prop :=
  ∃ before after, pairs = before ++ entry :: after ∧ ∀ later ∈ after, ¬ Displaces later entry

theorem lasts_append : Lasts (pairs ++ more) entry ↔
    Lasts more entry ∨ Lasts pairs entry ∧ ∀ later ∈ more, ¬ Displaces later entry := by
  constructor
  · rintro ⟨before, after, split, kept⟩
    rcases List.append_eq_append_iff.mp split with ⟨between, -, later⟩ | ⟨between, earlier, later⟩
    · exact .inl ⟨between, after, later, kept⟩
    · cases between with
      | nil => exact .inl ⟨[], after, later.symm, kept⟩
      | cons first rest =>
        obtain ⟨rfl, rfl⟩ := List.cons.inj later
        exact .inr ⟨⟨before, rest, earlier, fun pair member => kept pair (List.mem_append_left _ member)⟩,
          fun pair member => kept pair (List.mem_append_right _ member)⟩
  · rintro (⟨before, after, rfl, kept⟩ | ⟨⟨before, after, rfl, kept⟩, spared⟩)
    · exact ⟨pairs ++ before, after, (List.append_assoc ..).symm, kept⟩
    · refine ⟨before, after ++ more, by rw [List.append_assoc, List.cons_append], fun later member => ?_⟩
      exact (List.mem_append.mp member).elim (kept later) (spared later)

theorem not_lasts_nil : ¬ Lasts [] entry := by
  rintro ⟨before, after, split, -⟩
  exact List.append_ne_nil_of_right_ne_nil before (List.cons_ne_nil entry after) split.symm

theorem lasts_singleton {only : String × String} : Lasts [only] entry ↔ entry = only := by
  constructor
  · rintro ⟨before, after, split, -⟩
    exact List.mem_singleton.mp (split ▸ List.mem_append_right before List.mem_cons_self)
  · rintro rfl
    exact ⟨[], [], rfl, List.forall_mem_nil _⟩

theorem not_displaces_iff {later : String × String} :
    ¬ Displaces later entry ↔ entry = later ∨ entry.1 ≠ later.1 ∧ entry.2 ≠ later.2 := by
  unfold Displaces
  grind

/-- Pairs that do not displace each other last all. -/
theorem lasts_iff_mem (spared : ∀ later ∈ pairs, ∀ earlier ∈ pairs, ¬ Displaces later earlier) :
    Lasts pairs entry ↔ entry ∈ pairs := by
  constructor
  · rintro ⟨before, after, rfl, -⟩
    exact List.mem_append_right before List.mem_cons_self
  · intro member
    obtain ⟨before, after, rfl⟩ := List.append_of_mem member
    refine ⟨before, after, rfl, fun later among => spared later ?_ entry member⟩
    exact List.mem_append_right before (List.mem_cons_of_mem entry among)

/-! ## Vocabularies that have grown -/

/-- Whether a vocabulary has certain pairs and no others, one to one. -/
structure Matches (vocabulary : Vocabulary) (paired : String × String → Prop) : Prop where
  /-- Both sides tell the same pairs. -/
  oneToOne : ∀ scope action,
    vocabulary.action? scope = some action ↔ vocabulary.scope? action = some scope
  exact : ∀ scope action, vocabulary.action? scope = some action ↔ paired (scope, action)
  /-- No two scopes share an action. -/
  unshared : ∀ scope other action, vocabulary.action? scope = some action →
    vocabulary.action? other = some action → scope = other

theorem IsOneToOne.matches {paired : String × String → Prop} (oneToOne : vocabulary.IsOneToOne)
    (exact : ∀ scope action, vocabulary.action? scope = some action ↔ paired (scope, action)) :
    vocabulary.Matches paired where
  oneToOne := oneToOne
  exact := exact
  unshared scope other action first second :=
    Option.some.inj (((oneToOne scope action).mp first).symm.trans ((oneToOne other action).mp second))

theorem pairAll_append (vocabulary : Vocabulary) (pairs more : List (String × String)) :
    vocabulary.pairAll (pairs ++ more) = (vocabulary.pairAll pairs).pairAll more :=
  List.foldl_append

/-- A vocabulary that starts empty has the pairs that last. -/
theorem pairAll_empty (pairs : List (String × String)) :
    (empty.pairAll pairs).IsOneToOne ∧ ∀ scope action,
      (empty.pairAll pairs).action? scope = some action ↔ Lasts pairs (scope, action) := by
  induction pairs using List.reverseRecOn with
  | nil =>
    refine ⟨fun scope action => ⟨nofun, nofun⟩, fun scope action => ⟨nofun, fun lasts => ?_⟩⟩
    exact absurd lasts not_lasts_nil
  | append_singleton pairs last ih =>
    obtain ⟨oneToOne, exact⟩ := ih
    rw [pairAll_append]
    change ((empty.pairAll pairs).pair last.1 last.2).IsOneToOne ∧ ∀ scope action,
      ((empty.pairAll pairs).pair last.1 last.2).action? scope = some action ↔ _
    refine ⟨oneToOne.pair last.1 last.2, fun scope action => ?_⟩
    rw [oneToOne.action?_pair, exact scope action, lasts_append, lasts_singleton,
      List.forall_mem_singleton, not_displaces_iff, Prod.ext_iff]
    grind

/-- The pairs of the ODRL vocabulary. -/
def odrlPairs : List (String × String) :=
  [(Scope.read, odrlBase ++ "read"), (Scope.append, odrlBase ++ "append"),
    (Scope.create, odrlBase ++ "create"), (Scope.delete, odrlBase ++ "delete"),
    (Scope.write, odrlBase ++ "write")]

instance (later earlier : String × String) : Decidable (Displaces later earlier) :=
  inferInstanceAs (Decidable (later ≠ earlier ∧ _))

/-- A vocabulary that has grown pair by pair, from nothing or from the ODRL vocabulary, is one to one. It
has the pairs that have been added and have not been displaced by later ones, and of the ODRL vocabulary
those that none of the added pairs displaces. -/
theorem pairAll_matches (pairs : List (String × String)) :
    (empty.pairAll pairs).Matches (Lasts pairs) ∧
      (odrl.pairAll pairs).Matches fun entry =>
        Lasts pairs entry ∨ entry ∈ odrlPairs ∧ ∀ later ∈ pairs, ¬ Displaces later entry := by
  have spared : ∀ later ∈ odrlPairs, ∀ earlier ∈ odrlPairs, ¬ Displaces later earlier := by decide
  obtain ⟨oneToOne, exact⟩ := pairAll_empty pairs
  obtain ⟨extended, holds⟩ := pairAll_empty (odrlPairs ++ pairs)
  have grown : empty.pairAll (odrlPairs ++ pairs) = odrl.pairAll pairs :=
    pairAll_append empty odrlPairs pairs
  rw [grown] at extended holds
  refine ⟨oneToOne.matches exact, extended.matches fun scope action => ?_⟩
  rw [holds, lasts_append, lasts_iff_mem spared]

/-- A pair that takes one side from each of two others leaves neither of them. -/
example : (empty.pairAll [("read", "look"), ("write", "change"), ("read", "change")]).action? "write" =
    none := by decide

end UmaGrant.Vocabulary
