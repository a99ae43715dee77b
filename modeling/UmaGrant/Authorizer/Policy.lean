import UmaGrant.Authorizer.Vocabulary
import UmaGrant.Requirements
/-! # Decisions by a policy engine

A policy engine is asked about every scope that its vocabulary has an action for, one question per
scope and in the order of the request. It has the last word on each: a scope is granted if and only
if a permission is in force for its action. The first question that fails ends the decision.
-/

namespace UmaGrant

structure PolicyEngine where
  judge : PolicyRequest → Except GrantError PolicyVerdict

namespace PolicyEngine

/-- Asks a policy engine, on the record. -/
def ask (engine : PolicyEngine) (request : PolicyRequest) : Consult PolicyVerdict :=
  .of (engine.judge request) [.verdict request]

end PolicyEngine

/-- A rule of a rule book. What it leaves open matches anything. -/
structure PolicyRule where
  /-- The subject, where `some none` asks for there being none. -/
  subject : Option (Option String)
  resource : Option String
  action : Option String
  verdict : Except GrantError PolicyVerdict

namespace PolicyRule

/-- The rule that an object describes. Members that are left out leave the rule open; a subject of
null asks for there being none. The verdict may be a report on an error. -/
def ofJson (json : Json) : PolicyRule where
  subject := (json.member? "subject").map Json.string?
  resource := (json.member? "resource").bind Json.string?
  action := (json.member? "action").bind Json.string?
  verdict :=
    let verdict := Json.orNull (json.member? "verdict")
    match GrantError.reported? verdict with
    | some error => .error error
    | none => .ok ((PolicyVerdict.shape verdict).toOption.getD .notApplicable)

def isAbout (rule : PolicyRule) (request : PolicyRequest) : Bool :=
  rule.subject.all (· = request.subject) && rule.resource.all (· = request.resource) &&
    rule.action.all (· = request.action)

end PolicyRule

/-- The policy engine that goes by the first rule that is about a request. -/
def PolicyEngine.ofRules (rules : List PolicyRule) : PolicyEngine where
  judge request :=
    match rules.find? fun rule => rule.isAbout request with
    | some rule => rule.verdict
    | none => .ok .notApplicable

structure PolicySet where
  engine : PolicyEngine
  vocabulary : Vocabulary

namespace PolicySet

def request (claims : Claims) (permission : Permission) (action : String) : PolicyRequest :=
  ⟨claims.text? ClaimType.webId, permission.resourceId, action, claims⟩

/-- Adds those of the scopes to a grant whose action is permitted. -/
def grantScopes (policies : PolicySet) (claims : Claims) (permission : Permission)
    (granted : Permission) : List String → Consult Permission
  | [] => pure granted
  | scope :: rest =>
    match policies.vocabulary.action? scope with
    | none => grantScopes policies claims permission granted rest
    | some action => do
      let verdict ← policies.engine.ask (request claims permission action)
      let grown := if verdict = .activePermission then granted.addScope scope else granted
      grantScopes policies claims permission grown rest

def decide (policies : PolicySet) (claims : Claims) (permission : Permission) :
    Consult Permission :=
  grantScopes policies claims permission (permission.retainScopes fun _ => false)
    permission.resourceScopes

def decideAll (policies : PolicySet) (claims : Claims) : List Permission → Consult (List Permission)
  | [] => pure []
  | permission :: rest => do
    let granted ← policies.decide claims permission
    let more ← decideAll policies claims rest
    pure (granted :: more)

/-- Whether a grant on the same resource gives everything that is asked for. -/
def isFullGrant (granted requested : Permission) : Bool :=
  requested.resourceScopes.all granted.hasScope

/-- Whether a WebID alone would be granted all permissions. An engine that fails does not grant. -/
def admits (policies : PolicySet) (permissions : List Permission) (webId : Json) : Logged Bool :=
  let decision := policies.decideAll (Dict.empty.insert ClaimType.webId webId) permissions
  ⟨match decision.outcome with
    | .ok granted => (granted.zip permissions).all fun pair => isFullGrant pair.1 pair.2
    | .error _ => false,
    decision.log⟩

end PolicySet

end UmaGrant
