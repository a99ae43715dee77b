import UmaGrant.Consultation
/-! # Outcomes of consultations

A computation that asks others is taken apart into its steps: what comes of it, and whom it asks. Whom
it asks does not matter for what comes of it, so there are laws about outcomes only.
-/

namespace UmaGrant

theorem except_bind_eq_ok_iff {ε α β : Type} {first : Except ε α} {next : α → Except ε β}
    {value : β} :
    (first >>= next) = .ok value ↔ ∃ middle, first = .ok middle ∧ next middle = .ok value := by
  cases first <;> simp [bind, Except.bind]

instance : LawfulMonad Logged := .mk' Logged (fun _ => by simp [Functor.map, Logged.bind, Logged.pure])
  (fun _ _ => by simp [Pure.pure, Bind.bind, Logged.bind, Logged.pure])
  (fun _ _ _ => by simp [Bind.bind, Logged.bind, List.append_assoc])

namespace Consult

variable {α β : Type}

@[simp] theorem outcome_pure (value : α) : (pure value : Consult α).outcome = .ok value := rfl

@[simp] theorem outcome_lift (outcome : Except GrantError α) :
    (Consult.lift outcome).outcome = outcome := rfl

theorem outcome_bind (first : Consult α) (next : α → Consult β) :
    (first >>= next).outcome =
      match first.outcome with
      | .ok value => (next value).outcome
      | .error error => .error error := by
  rcases first with ⟨outcome, log⟩
  cases outcome <;> rfl

theorem lift_ok_bind (value : α) (next : α → Consult β) : lift (.ok value) >>= next = next value := rfl

theorem log_bind (first : Consult α) (next : α → Consult β) :
    (first >>= next).log = first.log ++
      match first.outcome with
      | .ok value => (next value).log
      | .error _ => [] := by
  rcases first with ⟨outcome, log⟩
  cases outcome <;> rfl

theorem bind_outcome_eq_ok_iff {first : Consult α} {next : α → Consult β} {value : β} :
    (first >>= next).outcome = .ok value ↔
      ∃ middle, first.outcome = .ok middle ∧ (next middle).outcome = .ok value := by
  rw [outcome_bind]
  cases first.outcome <;> simp

theorem bind_outcome_eq_error_iff {first : Consult α} {next : α → Consult β} {error : GrantError} :
    (first >>= next).outcome = .error error ↔
      first.outcome = .error error ∨
        ∃ middle, first.outcome = .ok middle ∧ (next middle).outcome = .error error := by
  rw [outcome_bind]
  cases first.outcome <;> simp

/-- What goes on after a computation matters only for the values that this can have. -/
theorem bind_congr_outcome {first : Consult α} {next other : α → Consult β}
    (same : ∀ value, first.outcome = .ok value → next value = other value) :
    first >>= next = first >>= other := by
  rcases first with ⟨outcome, log⟩
  cases outcome with
  | error error => rfl
  | ok value =>
    have going : ∀ next : α → Consult β, (of (.ok value) log >>= next) =
        of (next value).outcome (log ++ (next value).log) := fun _ => rfl
    change of (.ok value) log >>= next = of (.ok value) log >>= other
    rw [going, going, same value rfl]

end Consult

end UmaGrant
