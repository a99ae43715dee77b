import UmaGrant.Consultation
/-! # Requirements on claims

Requirements name claim types and, for each of them, a test that its value has to pass. A
requirement is taken away once a claim meets it, so empty requirements are met.
-/

namespace UmaGrant

/-- A test of a claim value. It may ask outside parties. -/
structure Predicate where
  accepts : Json → Logged Bool

namespace Predicate

def ofTest (test : Json → Bool) : Predicate := ⟨fun value => Logged.pure (test value)⟩

def any : Predicate := ofTest fun _ => true

def oneOf (allowed : List String) : Predicate :=
  ofTest fun value => value.string?.any allowed.contains

end Predicate

/-- Claim types that are still required, each with its test. -/
abbrev Requirements := Dict Predicate

namespace Requirements

def withAny (requirements : Requirements) (claimType : String) : Requirements :=
  requirements.insert claimType .any

def withOneOf (requirements : Requirements) (claimType : String) (allowed : List String) :
    Requirements :=
  requirements.insert claimType (.oneOf allowed)

/-- The requirements that an object of claim types describes: a list of texts means one of them,
anything else any value. -/
def ofJson : Json → Requirements
  | .object members =>
    members.foldl
      (fun requirements entry =>
        match entry.2 with
        | .array allowed => requirements.withOneOf entry.1 (allowed.filterMap Json.string?)
        | _ => requirements.withAny entry.1)
      .empty
  | _ => .empty

def isSolved (requirements : Requirements) : Bool := requirements.isEmpty

/-- The claim types that are still required, ascending. -/
def claimTypes (requirements : Requirements) : List String := requirements.keys

/-- Puts a claim value to its test, if the claim is required. -/
def check (requirements : Requirements) (claimType : String) (value : Json) :
    Logged (Option Bool) :=
  match requirements.get? claimType with
  | none => Logged.pure none
  | some predicate => do
    let accepted ← predicate.accepts value
    Logged.pure (some accepted)

/-- Takes a requirement away if the claim is required and its value passes. -/
def meet (requirements : Requirements) (claimType : String) (value : Json) :
    Logged Requirements := do
  let verdict ← requirements.check claimType value
  Logged.pure (if verdict = some true then requirements.erase claimType else requirements)

/-- The listing of the claim types in a message. -/
def debugText (requirements : Requirements) : String := Text.quoteSet requirements.claimTypes

end Requirements

end UmaGrant
