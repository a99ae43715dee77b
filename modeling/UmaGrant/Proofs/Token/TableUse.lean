import UmaGrant.Proofs.Dict
import UmaGrant.Proofs.Supply
import UmaGrant.Token.Factory
/-! # What becomes of a table of reference tokens

A table is used in turn to issue tokens, to redeem them and to drop those that have expired. The entry
of a token stays as it was made, whatever is done with other tokens, until it is looked at after its
expiry. So a reference token is worth what it was issued for until it expires, and nothing afterwards.
-/

namespace UmaGrant

/-- Whether an answer gives the payload of a token if a condition holds, and says that the token is not
valid if it does not. -/
structure HonouredIf (good : Prop) (payload : AccessToken)
    (answer : Except GrantError AccessToken) : Prop where
  accepted : good → answer = .ok payload
  refused : ¬ good → ∃ message, answer = .error (.invalidToken message)

theorem HonouredIf.congr {good other : Prop} (same : good ↔ other) {payload : AccessToken}
    {answer : Except GrantError AccessToken} (honoured : HonouredIf good payload answer) :
    HonouredIf other payload answer := propext same ▸ honoured

/-- What may be done with a table of reference tokens. -/
inductive TableUse where
  | issue (now : Instant) (supply : Supply) (payload : AccessToken)
  | redeem (now : Instant) (token : String)
  | sweep (now : Instant)

namespace TableUse

/-- When a table is used. -/
def now : TableUse → Instant
  | issue now _ _ | redeem now _ | sweep now => now

/-- The number of the credential that is issued. -/
def number? : TableUse → Option Nat
  | issue _ supply _ => some supply.next
  | redeem _ _ | sweep _ => none

end TableUse

namespace ReferenceTokens

variable {table : ReferenceTokens} {now later : Instant} {supply : Supply} {number : Nat}
  {payload : AccessToken}

/-- The table of a factory that makes reference tokens. -/
def ofFactory (table : ReferenceTokens) : TokenFactory → ReferenceTokens
  | .reference used => used
  | .signed _ _ => table

/-- What a table is once it was used. -/
def use (table : ReferenceTokens) : TableUse → ReferenceTokens
  | .issue now supply payload =>
    match ((TokenFactory.reference table).issue now supply payload).1 with
    | some (_, factory) => table.ofFactory factory
    | none => table
  | .redeem now token => table.ofFactory ((TokenFactory.reference table).redeem now token).2
  | .sweep now => (table.sweep now).2

/-- What a table is after uses in turn. -/
def after (table : ReferenceTokens) (uses : List TableUse) : ReferenceTokens := uses.foldl use table

theorem after_append (table : ReferenceTokens) (before uses : List TableUse) :
    table.after (before ++ uses) = (table.after before).after uses := List.foldl_append

/-! ## One use -/

/-- A token is issued wherever its expiry has a date, under the next number. -/
theorem issue_eq_map (table : ReferenceTokens) (now : Instant) (supply : Supply)
    (payload : AccessToken) :
    (TokenFactory.reference table).issue now supply payload =
      ((now.after? table.lifetime).map fun expiresAt =>
        (⟨Fresh.credential supply.next, bearer⟩, .reference
          { table with
            entries := table.entries.insert (Fresh.credential supply.next) ⟨payload, expiresAt⟩ }),
        ⟨supply.next + 1⟩) := by
  change ((table.issue? now supply.next payload).map _, _) = _
  rw [issue?, Option.map_map]
  rfl

theorem use_issue (table : ReferenceTokens) (now : Instant) (supply : Supply)
    (payload : AccessToken) :
    table.use (.issue now supply payload) =
      match now.after? table.lifetime with
      | some expiresAt =>
        { table with
          entries := table.entries.insert (Fresh.credential supply.next) ⟨payload, expiresAt⟩ }
      | none => table := by
  rw [use, issue_eq_map]
  cases now.after? table.lifetime <;> rfl

/-- Only what has expired is dropped when it is shown. -/
theorem use_redeem (table : ReferenceTokens) (now : Instant) (token : String) :
    table.use (.redeem now token) = table ∨
      (∃ stored, table.entries.get? token = some stored ∧ isLive now stored = false) ∧
        table.use (.redeem now token) = { table with entries := table.entries.erase token } := by
  have used : table.use (.redeem now token) = (table.redeem now token).2 := rfl
  rw [used, redeem]
  cases found : table.entries.get? token with
  | none => exact .inl rfl
  | some stored =>
    cases lasts : isLive now stored with
    | true => exact .inl (by simp [lasts])
    | false => exact .inr ⟨⟨stored, rfl, lasts⟩, by simp [lasts]⟩

theorem use_lifetime (table : ReferenceTokens) (use : TableUse) :
    (table.use use).lifetime = table.lifetime := by
  cases use with
  | issue now supply payload =>
    rw [use_issue]
    cases now.after? table.lifetime <;> rfl
  | redeem now token =>
    rcases table.use_redeem now token with used | ⟨-, used⟩ <;> rw [used]
  | sweep now => rfl

theorem ordered_use (ordered : table.entries.Ordered) (use : TableUse) :
    (table.use use).entries.Ordered := by
  cases use with
  | issue now supply payload =>
    rw [use_issue]
    cases now.after? table.lifetime with
    | none => exact ordered
    | some expiresAt => exact ordered.insert _ _
  | redeem now token =>
    rcases table.use_redeem now token with used | ⟨-, used⟩ <;> rw [used]
    · exact ordered
    · exact ordered.erase _
  | sweep now => exact ordered.filter _

/-- The entry of a credential is left alone by every use that does not issue it, or it is dropped since
it has expired. -/
theorem get?_use (ordered : table.entries.Ordered) {use : TableUse}
    (other : use.number? ≠ some number) :
    (table.use use).entries.get? (Fresh.credential number) =
        table.entries.get? (Fresh.credential number) ∨
      (table.use use).entries.get? (Fresh.credential number) = none ∧
        ∀ stored, table.entries.get? (Fresh.credential number) = some stored →
          isLive use.now stored = false := by
  cases use with
  | issue now supply payload =>
    have differ : Fresh.credential number ≠ Fresh.credential supply.next := fun same =>
      other (congrArg some (Fresh.credential_injective same).symm)
    rw [use_issue]
    cases now.after? table.lifetime with
    | none => exact .inl rfl
    | some expiresAt => exact .inl (Dict.get?_insert_other _ differ _)
  | redeem now token =>
    rcases table.use_redeem now token with used | ⟨⟨stored, found, expired⟩, used⟩ <;> rw [used]
    · exact .inl rfl
    · by_cases same : Fresh.credential number = token
      · refine .inr ⟨same ▸ Dict.get?_erase_same _ _, fun candidate present => ?_⟩
        rw [same, found] at present
        cases present
        exact expired
      · exact .inl (Dict.get?_erase_other _ same)
  | sweep now =>
    have swept := ordered.get?_filter (fun _ stored => isLive now stored) (Fresh.credential number)
    change (table.entries.filter _).get? _ = _ ∨ (table.entries.filter _).get? _ = none ∧ _
    rw [swept]
    cases table.entries.get? (Fresh.credential number) with
    | none => exact .inl rfl
    | some stored =>
      cases lasts : isLive now stored with
      | true => exact .inl (by rw [Option.filter_some, if_pos lasts])
      | false =>
        refine .inr ⟨by rw [Option.filter_some, lasts]; rfl, fun candidate same => ?_⟩
        cases same
        exact lasts

/-! ## Many uses -/

theorem after_lifetime (table : ReferenceTokens) (uses : List TableUse) :
    (table.after uses).lifetime = table.lifetime := by
  induction uses generalizing table with
  | nil => rfl
  | cons use rest ih => exact (ih (table.use use)).trans (table.use_lifetime use)

theorem ordered_after (ordered : table.entries.Ordered) (uses : List TableUse) :
    (table.after uses).entries.Ordered := by
  induction uses generalizing table with
  | nil => exact ordered
  | cons use rest ih => exact ih (ordered_use ordered use)

theorem isLive_of_isLive {stored : StoredToken} (onward : now.nanos ≤ later.nanos)
    (lasts : isLive later stored = true) : isLive now stored = true := by
  simp only [isLive, decide_eq_true_eq] at lasts ⊢
  omega

/-- The entry of a credential outlives all uses up to an instant that do not issue it, unless it has
expired by then. -/
theorem get?_after (ordered : table.entries.Ordered) {uses : List TableUse}
    (others : ∀ use ∈ uses, use.number? ≠ some number)
    (past : ∀ use ∈ uses, use.now.nanos ≤ later.nanos) :
    (table.after uses).entries.get? (Fresh.credential number) =
        table.entries.get? (Fresh.credential number) ∨
      (table.after uses).entries.get? (Fresh.credential number) = none ∧
        ∀ stored, table.entries.get? (Fresh.credential number) = some stored →
          isLive later stored = false := by
  induction uses generalizing table with
  | nil => exact .inl rfl
  | cons use rest ih =>
    have onward := ih (ordered_use ordered use) (List.forall_mem_cons.mp others).2
      (List.forall_mem_cons.mp past).2
    have by_then : ∀ stored, isLive use.now stored = false → isLive later stored = false :=
      fun stored expired => Bool.eq_false_iff.mpr fun lasts => by
        rw [isLive_of_isLive (past use List.mem_cons_self) lasts] at expired
        cases expired
    rcases get?_use ordered (others use List.mem_cons_self) with here | ⟨here, expired⟩
    · rw [here] at onward
      exact onward
    · refine .inr ⟨?_, fun stored found => by_then stored (expired stored found)⟩
      rcases onward with same | ⟨dropped, -⟩
      · exact same.trans here
      · exact dropped

/-- A reference token is worth its payload until it expires, whatever is done with other tokens up to
then, and it is not valid from then on. -/
theorem honoured_after {expiresAt : Instant} (ordered : table.entries.Ordered)
    (ending : now.after? table.lifetime = some expiresAt) {uses : List TableUse}
    (others : ∀ use ∈ uses, use.number? ≠ some supply.next)
    (past : ∀ use ∈ uses, use.now.nanos ≤ later.nanos) :
    HonouredIf (later.nanos < expiresAt.nanos) payload
      (((table.use (.issue now supply payload)).after uses).redeem later
        (Fresh.credential supply.next)).1 := by
  have issued : (table.use (.issue now supply payload)).entries.get?
      (Fresh.credential supply.next) = some ⟨payload, expiresAt⟩ := by
    rw [use_issue, ending]
    exact Dict.get?_insert_same _ _ _
  have entry := get?_after (ordered_use ordered (.issue now supply payload)) others past
  rw [issued] at entry
  rw [redeem]
  rcases entry with here | ⟨dropped, expired⟩
  · rw [here]
    refine ⟨fun lasts => ?_, fun expired => ⟨"Access token expired", ?_⟩⟩
    · have live : isLive later ⟨payload, expiresAt⟩ = true := decide_eq_true lasts
      simp only [live, if_true]
    · have dead : isLive later ⟨payload, expiresAt⟩ = false := decide_eq_false expired
      simp only [dead, Bool.false_eq_true, if_false]
  · rw [dropped]
    refine ⟨fun lasts => ?_, fun _ => ⟨_, rfl⟩⟩
    have dead := expired _ rfl
    exact absurd lasts (of_decide_eq_false dead)

end ReferenceTokens

end UmaGrant
