import UmaGrant.Claim
import UmaGrant.GrantError
import UmaGrant.Permission
/-! # Consultations

Decisions may rest on parties outside the engine: a policy engine, or an authorizer that lives
elsewhere. A computation that may ask them records every question in order, also when it fails
in the end, so that statements about who was asked about what are statements about its record.
-/

namespace UmaGrant

/-- What a policy engine is asked: may this subject do this to this resource? -/
structure PolicyRequest where
  /-- The WebID of the requesting party, if it has shown one. -/
  subject : Option String
  resource : String
  action : String
  claims : Claims
deriving Repr

inductive PolicyVerdict where
  /-- A permission is in force. -/
  | activePermission
  | prohibited
  | notApplicable
deriving DecidableEq, Repr

namespace PolicyVerdict

def names : List (String × PolicyVerdict) :=
  [("active_permission", activePermission), ("prohibited", prohibited),
    ("not_applicable", notApplicable)]

def name : PolicyVerdict → String
  | activePermission => "active_permission"
  | prohibited => "prohibited"
  | notApplicable => "not_applicable"

def shape : Shape PolicyVerdict := Shape.variant .json names

end PolicyVerdict

/-- A question put to an outside party. -/
inductive Consultation where
  /-- A policy engine was asked for a verdict. -/
  | verdict (request : PolicyRequest)
  /-- An authorizer elsewhere was asked for grants. -/
  | grants (claims : Claims) (query : Option (List Permission))
  /-- An authorizer elsewhere was asked which claims would do; of the claims that the asker can
  handle only the types are told. -/
  | credentials (permissions : List Permission) (claimTypes : Option (List String))
deriving Repr

namespace Consultation

def toJson : Consultation → Json
  | verdict request =>
    .ofMembers
      [("evaluate", .ofMembers
        [("subject", .orNull (request.subject.map .string)),
          ("resource", .string request.resource), ("action", .string request.action),
          ("claims", .ofDict request.claims)])]
  | grants claims query =>
    .ofMembers
      [("permissions", .ofMembers
        [("claims", .ofDict claims), ("query", .orNull (query.map Permission.listToJson))])]
  | credentials permissions claimTypes =>
    .ofMembers
      [("credentials", .ofMembers
        [("permissions", Permission.listToJson permissions),
          ("query", .orNull (claimTypes.map .strings))])]

end Consultation

/-- A value and the questions that were asked to find it. -/
structure Logged (α : Type) where
  value : α
  log : List Consultation

namespace Logged

variable {α β : Type}

def pure (value : α) : Logged α := ⟨value, []⟩

/-- Goes on with a value, and with the record of how it was found. -/
def bind (first : Logged α) (next : α → Logged β) : Logged β :=
  let second := next first.value
  ⟨second.value, first.log ++ second.log⟩

instance : Monad Logged where
  pure := Logged.pure
  bind := Logged.bind

def ask (question : Consultation) : Logged Unit := ⟨(), [question]⟩

end Logged

/-- A computation that may ask outside parties and may fail. -/
abbrev Consult (α : Type) := ExceptT GrantError Logged α

namespace Consult

variable {α : Type}

def of (outcome : Except GrantError α) (log : List Consultation) : Consult α :=
  ExceptT.mk ⟨outcome, log⟩

def outcome (computation : Consult α) : Except GrantError α := (ExceptT.run computation).value

/-- The questions that a computation asked. -/
def log (computation : Consult α) : List Consultation := (ExceptT.run computation).log

/-- An outcome that takes no asking. -/
def lift (outcome : Except GrantError α) : Consult α := of outcome []

def fail (error : GrantError) : Consult α := of (.error error) []

/-- Runs a computation that does not fail. -/
def ofLogged (computation : Logged α) : Consult α := of (.ok computation.value) computation.log

end Consult

end UmaGrant
