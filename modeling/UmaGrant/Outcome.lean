/-! # Outcomes

A decision that may go either way without anything being wrong. A failure carries what is needed
to go on.
-/

namespace UmaGrant

/-- A success or a failure, each with a value. -/
inductive Outcome (σ φ : Type) where
  | success (value : σ)
  | failure (value : φ)
deriving DecidableEq, Repr

namespace Outcome

variable {σ τ φ ψ : Type}

def isSuccess : Outcome σ φ → Bool
  | success _ => true
  | failure _ => false

def isFailure : Outcome σ φ → Bool
  | success _ => false
  | failure _ => true

def success? : Outcome σ φ → Option σ
  | success value => some value
  | failure _ => none

def failure? : Outcome σ φ → Option φ
  | success _ => none
  | failure value => some value

def map (change : σ → τ) : Outcome σ φ → Outcome τ φ
  | success value => success (change value)
  | failure value => failure value

def mapFailure (change : φ → ψ) : Outcome σ φ → Outcome σ ψ
  | success value => success value
  | failure value => failure (change value)

def toExcept : Outcome σ φ → Except φ σ
  | success value => .ok value
  | failure value => .error value

def ofExcept : Except φ σ → Outcome σ φ
  | .ok value => success value
  | .error value => failure value

end Outcome

end UmaGrant
