import UmaGrant.Negotiation.Round
/-! # Laws of rounds

A round in a realm ends with an outcome and leaves a realm. Rounds in sequence are taken apart at
the realm that the first one leaves. What every part of a round keeps the whole round keeps, however
early it ends.
-/

namespace UmaGrant.Round

variable {α β γ : Type} {realm left : Realm}

private theorem bind_pure_run (round : Round α) : Round.bind round Round.pure = round := by
  funext realm
  unfold Round.bind
  rcases round realm with ⟨outcome, left, log⟩
  cases outcome with
  | error halt => rfl
  | ok value => simp [Round.pure]

private theorem pure_bind_run (value : α) (next : α → Round β) :
    Round.bind (Round.pure value) next = next value := by
  funext realm
  simp [Round.bind, Round.pure]

private theorem bind_assoc_run (first : Round α) (second : α → Round β) (third : β → Round γ) :
    Round.bind (Round.bind first second) third =
      Round.bind first fun value => Round.bind (second value) third := by
  funext realm
  unfold Round.bind
  rcases first realm with ⟨outcome, between, log⟩
  cases outcome with
  | error halt => rfl
  | ok value =>
    dsimp only
    rcases second value between with ⟨outcome, left, more⟩
    cases outcome with
    | error halt => rfl
    | ok value => simp

instance : LawfulMonad Round := .mk' Round bind_pure_run pure_bind_run bind_assoc_run

/-! ## Running rounds -/

theorem run_bind (first : Round α) (next : α → Round β) (realm : Realm) :
    (first >>= next).run realm =
      match (first.run realm).outcome with
      | .error halt => ⟨.error halt, (first.run realm).realm, (first.run realm).log⟩
      | .ok value =>
        let second := (next value).run (first.run realm).realm
        ⟨second.outcome, second.realm, (first.run realm).log ++ second.log⟩ := rfl

theorem run_realm_bind (next : Realm → Round β) (realm : Realm) :
    (Round.realm >>= next).run realm = (next realm).run realm := rfl

theorem run_change_bind (update : Realm → Realm) (next : Unit → Round β) (realm : Realm) :
    (change update >>= next).run realm = (next ()).run (update realm) := rfl

theorem run_draw_bind (next : Nat → Round β) (realm : Realm) :
    (draw >>= next).run realm =
      (next realm.supply.next).run { realm with supply := ⟨realm.supply.next + 1⟩ } := rfl

theorem run_consult_bind (computation : Consult α) (next : α → Round β) (realm : Realm) :
    (consult computation >>= next).run realm =
      match computation.outcome with
      | .error error => ⟨.error (.refused error), realm, computation.log⟩
      | .ok value =>
        let second := (next value).run realm
        ⟨second.outcome, second.realm, computation.log ++ second.log⟩ := by
  rw [run_bind]
  unfold consult run
  cases computation.outcome <;> rfl

theorem run_ofLogged_bind (computation : Logged α) (next : α → Round β) (realm : Realm) :
    (ofLogged computation >>= next).run realm =
      let second := (next computation.value).run realm
      ⟨second.outcome, second.realm, computation.log ++ second.log⟩ := rfl

/-- Whether a round in a realm ends with an outcome and leaves another realm. -/
def Ends (round : Round α) (realm : Realm) (outcome : Except Halt α) (left : Realm) : Prop :=
  (round.run realm).outcome = outcome ∧ (round.run realm).realm = left

/-- A round in two parts succeeds if and only if the second part does in the realm that the first
one leaves. -/
theorem ends_bind_ok {first : Round α} {next : α → Round β} {value : β} :
    (first >>= next).Ends realm (.ok value) left ↔
      ∃ middle between, first.Ends realm (.ok middle) between ∧
        (next middle).Ends between (.ok value) left := by
  unfold Ends
  rw [run_bind]
  cases ended : (first.run realm).outcome with
  | error halt => simp
  | ok middle =>
    constructor
    · exact fun rest => ⟨middle, _, ⟨rfl, rfl⟩, rest⟩
    · rintro ⟨_, _, ⟨same, rfl⟩, rest⟩
      cases same
      exact rest

/-- A round in two parts ends as its second part does, once the first one has succeeded. -/
theorem Ends.bind {first : Round α} {next : α → Round β} {middle : α} {between : Realm}
    {outcome : Except Halt β} (succeeded : first.Ends realm (.ok middle) between)
    (ended : (next middle).Ends between outcome left) :
    (first >>= next).Ends realm outcome left := by
  unfold Ends
  rw [run_bind, succeeded.1, succeeded.2]
  exact ended

/-- It ends early if the first part does. -/
theorem Ends.bind_error {first : Round α} {halt : Halt} (halted : first.Ends realm (.error halt) left)
    (next : α → Round β) : (first >>= next).Ends realm (.error halt) left := by
  unfold Ends
  rw [run_bind, halted.1]
  exact ⟨rfl, halted.2⟩

/-- Rounds in two parts go alike if the first parts do and then, where these succeed, the second
parts. -/
theorem run_bind_congr {first other : Round α} {next more : α → Round β}
    (same : first.run realm = other.run realm)
    (goesOn : ∀ value left, first.Ends realm (.ok value) left →
      (next value).run left = (more value).run left) :
    (first >>= next).run realm = (other >>= more).run realm := by
  rw [run_bind, run_bind, ← same]
  cases ended : (first.run realm).outcome with
  | error halt => rfl
  | ok value =>
    dsimp only
    rw [goesOn value _ ⟨ended, rfl⟩]

theorem ends_consult_ok {computation : Consult α} {value : α} :
    (consult computation).Ends realm (.ok value) left ↔
      computation.outcome = .ok value ∧ left = realm := by
  unfold Ends consult run
  cases computation.outcome <;> simp [eq_comm]

/-- What a round asks others may depend on the realm. -/
theorem ends_realm_consult_ok {computation : Realm → Consult α} {next : Realm → α → Round β}
    {value : β} :
    (Round.realm >>= fun realm => consult (computation realm) >>= next realm).Ends realm
        (.ok value) left ↔
      ∃ middle, (computation realm).outcome = .ok middle ∧
        (next realm middle).Ends realm (.ok value) left := by
  unfold Ends
  rw [run_realm_bind, run_consult_bind]
  cases (computation realm).outcome <;> simp

end UmaGrant.Round

namespace UmaGrant

/-! ## What rounds keep -/

/-- Whether a realm differs from an earlier one at most in what does not concern tickets. Numbers may
have been drawn in between. -/
structure Realm.Continues (earlier later : Realm) : Prop where
  tickets : later.tickets = earlier.tickets
  descriptions : later.descriptions = earlier.descriptions
  supply : earlier.supply.next ≤ later.supply.next

theorem Realm.Continues.refl (realm : Realm) : realm.Continues realm := ⟨rfl, rfl, Nat.le_refl _⟩

theorem Realm.Continues.trans {first second third : Realm} (before : first.Continues second)
    (after : second.Continues third) : first.Continues third :=
  ⟨after.tickets.trans before.tickets, after.descriptions.trans before.descriptions,
    Nat.le_trans before.supply after.supply⟩

namespace Round

variable {α β : Type}

/-- Whether a round leaves tickets and descriptions alone, however it ends. -/
def IsSteady (round : Round α) : Prop := ∀ realm : Realm, realm.Continues (round.run realm).realm

theorem IsSteady.ends {round : Round α} (steady : round.IsSteady) {realm left : Realm}
    {outcome : Except Halt α} (ended : round.Ends realm outcome left) : realm.Continues left :=
  ended.2 ▸ steady realm

theorem IsSteady.bind {first : Round α} {next : α → Round β} (steady : first.IsSteady)
    (steadyNext : ∀ value, (next value).IsSteady) : (first >>= next).IsSteady := by
  intro realm
  rw [run_bind]
  cases (first.run realm).outcome with
  | error halt => exact steady realm
  | ok value => exact (steady realm).trans (steadyNext value _)

theorem isSteady_pure (value : α) : (pure value : Round α).IsSteady := Realm.Continues.refl

theorem isSteady_realm : Round.realm.IsSteady := Realm.Continues.refl

theorem isSteady_consult (computation : Consult α) : (consult computation).IsSteady :=
  Realm.Continues.refl

theorem isSteady_ofLogged (computation : Logged α) : (ofLogged computation).IsSteady :=
  Realm.Continues.refl

theorem isSteady_ofExcept (outcome : Except Halt α) : (ofExcept outcome).IsSteady := by
  cases outcome <;> exact Realm.Continues.refl

theorem isSteady_draw : draw.IsSteady := fun _ => ⟨rfl, rfl, Nat.le_succ _⟩

theorem isSteady_change {update : Realm → Realm}
    (steady : ∀ realm : Realm, realm.Continues (update realm)) : (change update).IsSteady := steady

end Round

end UmaGrant
