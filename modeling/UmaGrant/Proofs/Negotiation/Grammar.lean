import UmaGrant.Negotiation.Request
import UmaGrant.Proofs.Json.Records
/-! # The grammar of token requests

Which JSON values are token requests is said of the values alone, without a word about how they are
examined: which fields they have, which of them may be left out or null, and what stands in each. Every
record may be written as an array of its fields in place of an object.
-/

namespace UmaGrant

namespace Permission

/-- Whether a value stands for a permission. -/
structure Written (json : Json) (permission : Permission) : Prop where
  record : json.IsRecord 3
  resourceId : json.given? "resource_id" 0 = some (.string permission.resourceId)
  /-- The scopes may be left out, but are not null. -/
  resourceScopes : json.given? "resource_scopes" 1 = some (.strings permission.resourceScopes) ∨
    json.given? "resource_scopes" 1 = none ∧ permission.resourceScopes = []
  policies : Json.Holds Json.SpellsAll (json.given? "policies" 2) permission.policies

theorem shape_iff (json : Json) (permission : Permission) :
    shape json = .ok permission ↔ Written json permission := by
  have reads := (((Fields.reads_pure mk).apply
      (Fields.reads_required "resource_id" Shape.string_iff)).apply
      (Fields.reads_defaulted "resource_scopes" [] Shape.list_string_iff)).apply
      (Fields.reads_optional "policies" Shape.list_string_iff nofun)
  refine (reads.read_iff "Permission").trans ⟨?_, ?_⟩
  · rintro ⟨record, _, policies, ⟨_, scopes, ⟨_, id, rfl, ⟨_, found, rfl⟩, rfl⟩, modes, rfl⟩, held, rfl⟩
    refine ⟨record, found, ?_, held⟩
    rcases modes with ⟨_, given, rfl⟩ | absent
    · exact .inl given
    · exact .inr absent
  · intro written
    refine ⟨written.record, _, _, ⟨_, _, ⟨_, _, rfl, ⟨_, written.resourceId, rfl⟩, rfl⟩, ?_, rfl⟩,
      written.policies, rfl⟩
    rcases written.resourceScopes with given | absent
    · exact .inl ⟨_, given, rfl⟩
    · exact .inr absent

end Permission

namespace ClaimToken

/-- Whether a value stands for a claim token. -/
structure Written (json : Json) (pushed : ClaimToken) : Prop where
  record : json.IsRecord 2
  token : json.given? "claim_token" 0 = some (.string pushed.token)
  format : json.given? "claim_token_format" 1 = some (.string pushed.format)

theorem shape_iff (json : Json) (token : ClaimToken) :
    shape json = .ok token ↔ Written json token := by
  have reads := ((Fields.reads_pure mk).apply
      (Fields.reads_required "claim_token" Shape.string_iff)).apply
      (Fields.reads_required "claim_token_format" Shape.string_iff)
  refine (reads.read_iff "ClaimToken").trans ⟨?_, ?_⟩
  · rintro ⟨record, _, format, ⟨_, token, rfl, ⟨_, found, rfl⟩, rfl⟩, ⟨_, foundToo, rfl⟩, rfl⟩
    exact ⟨record, found, foundToo⟩
  · intro written
    exact ⟨written.record, _, _, ⟨_, _, rfl, ⟨_, written.token, rfl⟩, rfl⟩, ⟨_, written.format, rfl⟩, rfl⟩

end ClaimToken

namespace PushedTokens

/-- Whether a value stands for claim tokens. -/
def Written (json : Json) : PushedTokens → Prop
  | single token => json = .string token
  | many tokens => json.Lists ClaimToken.Written tokens

theorem not_written_null (pushed : PushedTokens) : ¬ Written .null pushed := by
  cases pushed with
  | single token => exact nofun
  | many tokens => exact Json.not_lists_null tokens

theorem shape_iff (json : Json) (pushed : PushedTokens) :
    shape json = .ok pushed ↔ Written json pushed := by
  by_cases text : ∃ token, json = .string token
  · obtain ⟨token, rfl⟩ := text
    cases pushed <;> simp [shape, Written, Json.Lists]
  · have read : shape json = ((Shape.list ClaimToken.shape json).map many).mapError
        fun _ => .noAlternative "ClaimTokens" := by
      unfold shape
      split
      · exact absurd ⟨_, rfl⟩ text
      · cases Shape.list ClaimToken.shape json <;> rfl
    rw [read]
    cases pushed with
    | single token =>
      have other : ¬ Written json (single token) := fun same => text ⟨token, same⟩
      cases Shape.list ClaimToken.shape json <;> simp [other, Except.map, Except.mapError]
    | many tokens =>
      rw [Written, ← Shape.list_iff ClaimToken.shape_iff]
      cases Shape.list ClaimToken.shape json <;> simp [Except.map, Except.mapError]

end PushedTokens

namespace TokenRequest

/-- Whether the fields of a value are those of a request. -/
structure Written (json : Json) (request : TokenRequest) : Prop where
  record : json.IsRecord 5
  ticket : Json.Holds Json.Spells (json.given? "ticket" 0) request.ticket
  claimToken : Json.Holds PushedTokens.Written (json.given? "claim_token" 1) request.claimToken
  claimTokenFormat :
    Json.Holds Json.Spells (json.given? "claim_token_format" 2) request.claimTokenFormat
  permissions :
    Json.Holds (Json.Lists Permission.Written) (json.given? "permissions" 3) request.permissions
  scope : Json.Holds Json.Spells (json.given? "scope" 4) request.scope

theorem shape_iff (json : Json) (request : TokenRequest) :
    shape json = .ok request ↔ Written json request := by
  have reads := (((((Fields.reads_pure mk).apply
      (Fields.reads_optional "ticket" Shape.string_iff Json.not_spells_null)).apply
      (Fields.reads_optional "claim_token" PushedTokens.shape_iff PushedTokens.not_written_null)).apply
      (Fields.reads_optional "claim_token_format" Shape.string_iff
        Json.not_spells_null)).apply
      (Fields.reads_optional "permissions" (Shape.list_iff Permission.shape_iff) Json.not_lists_null)).apply
      (Fields.reads_optional "scope" Shape.string_iff Json.not_spells_null)
  refine (reads.read_iff "NegotiationInput").trans ⟨?_, ?_⟩
  · rintro ⟨record, _, scope, ⟨_, permissions, ⟨_, format, ⟨_, pushed, ⟨_, ticket, rfl,
      ticketHeld, rfl⟩, pushedHeld, rfl⟩, formatHeld, rfl⟩, permissionsHeld, rfl⟩, scopeHeld, rfl⟩
    exact ⟨record, ticketHeld, pushedHeld, formatHeld, permissionsHeld, scopeHeld⟩
  · rintro ⟨record, ticketHeld, pushedHeld, formatHeld, permissionsHeld, scopeHeld⟩
    exact ⟨record, _, _, ⟨_, _, ⟨_, _, ⟨_, _, ⟨_, _, rfl, ticketHeld, rfl⟩, pushedHeld, rfl⟩,
      formatHeld, rfl⟩, permissionsHeld, rfl⟩, scopeHeld, rfl⟩

/-- Whether a value stands for a request that can be answered. -/
structure IsWritten (json : Json) (request : TokenRequest) : Prop extends Written json request where
  oneAim : Json.IsAbsent (json.given? "ticket" 0) ↔ ¬ Json.IsAbsent (json.given? "permissions" 3)
  somePermission : json.given? "permissions" 3 ≠ some (.array [])
  /-- A single claim token has its format beside it. -/
  format : ∀ token, json.given? "claim_token" 1 = some (.string token) →
    ¬ Json.IsAbsent (json.given? "claim_token_format" 2)

/-- Whether a value pushes claim tokens, in their order. -/
def Pushes (json : Json) (tokens : List ClaimToken) : Prop :=
  match json.given? "claim_token" 1 with
  | some (.string token) => ∃ format,
    json.given? "claim_token_format" 2 = some (.string format) ∧ tokens = [⟨token, format⟩]
  | some (.array items) => List.Forall₂ ClaimToken.Written items tokens
  | _ => tokens = []

/-! ## Checks -/

/-- A request has an aim if it has exactly one. -/
theorem aim_ok_iff (request : TokenRequest) :
    (∃ aim, request.aim = .ok aim) ↔
      (request.ticket = none ↔ request.permissions ≠ none) ∧ request.permissions ≠ some [] := by
  rcases request with ⟨_ | ticket, claimToken, format, _ | permissions, scope⟩
  · simp [aim]
  · cases permissions <;> simp [aim]
  · simp [aim]
  · simp [aim]

/-- The claim tokens of a request are known unless a single one lacks its format. -/
theorem claimTokens_ok_iff (request : TokenRequest) :
    (∃ tokens, request.claimTokens = .ok tokens) ↔
      ∀ token, request.claimToken = some (.single token) → request.claimTokenFormat ≠ none := by
  rcases request with ⟨ticket, _ | token | tokens, _ | format, permissions, scope⟩ <;>
    simp [claimTokens]

/-- A request passes its check if it has an aim and its claim tokens are known. -/
theorem check_ok_iff (request : TokenRequest) :
    (∃ checked, request.check = .ok checked) ↔
      (∃ aim, request.aim = .ok aim) ∧ ∃ tokens, request.claimTokens = .ok tokens := by
  rw [check]
  cases request.aim <;> cases request.claimTokens <;> simp [bind, Except.bind]

theorem ofJson_ok_iff {json : Json} {request : TokenRequest} :
    ofJson json = .ok request ↔ shape json = .ok request ∧ ∃ checked, request.check = .ok checked := by
  rw [ofJson]
  cases shape json with
  | error error => simp
  | ok other =>
    refine except_bind_eq_ok_iff.trans ⟨?_, ?_⟩
    · rintro ⟨checked, passes, ⟨⟩⟩
      exact ⟨rfl, checked, passes⟩
    · rintro ⟨⟨⟩, checked, passes⟩
      exact ⟨checked, passes, rfl⟩

/-- Whatever is wrong with a value, it is an invalid request. -/
theorem ofJson_error {json : Json} {error : GrantError} (refused : ofJson json = .error error) :
    ∃ detail, error = .invalidRequest detail := by
  rw [ofJson] at refused
  cases read : shape json with
  | error _ =>
    rw [read] at refused
    cases refused
    exact ⟨_, rfl⟩
  | ok request =>
    rw [read] at refused
    rcases request with ⟨_ | ticket, _ | token | tokens, _ | format, _ | _ | _, scope⟩ <;>
      cases refused <;> exact ⟨_, rfl⟩

section

variable {json : Json} {request : TokenRequest} (written : Written json request)

include written

/-- Only an empty array is read as no permissions that are listed. -/
private theorem Written.permissions_eq_nil_iff :
    json.given? "permissions" 3 = some (.array []) ↔ request.permissions = some [] := by
  have held := written.permissions
  constructor
  · intro given
    rw [given] at held
    rcases listed : request.permissions with _ | permissions <;> rw [listed] at held
    · rcases held with ⟨⟨⟩⟩ | ⟨⟨⟩⟩
    · obtain ⟨_, ⟨⟩, items, ⟨⟩, empty⟩ := held
      rw [List.forall₂_nil_left_iff.mp empty]
  · intro listed
    rw [listed] at held
    obtain ⟨_, given, items, rfl, empty⟩ := held
    rw [given, List.forall₂_nil_right_iff.mp empty]

/-- Only a text is read as a single claim token. -/
private theorem Written.claimToken_eq_single_iff (token : String) :
    json.given? "claim_token" 1 = some (.string token) ↔
      request.claimToken = some (.single token) := by
  have held := written.claimToken
  constructor
  · intro given
    rw [given] at held
    rcases pushed : request.claimToken with _ | single | tokens <;> rw [pushed] at held
    · rcases held with ⟨⟨⟩⟩ | ⟨⟨⟩⟩
    · obtain ⟨_, ⟨⟩, ⟨⟩⟩ := held
      rfl
    · obtain ⟨_, ⟨⟩, _, ⟨⟩, _⟩ := held
  · intro pushed
    rw [pushed] at held
    obtain ⟨_, given, rfl⟩ := held
    exact given

/-- Whether a request passes its check can be seen from what it is read from. -/
private theorem Written.check_ok_iff :
    (∃ checked, request.check = .ok checked) ↔ IsWritten json request := by
  have noTicket := written.ticket.isAbsent_iff Json.not_spells_null
  have noFormat := written.claimTokenFormat.isAbsent_iff Json.not_spells_null
  have noPermissions := written.permissions.isAbsent_iff Json.not_lists_null
  rw [TokenRequest.check_ok_iff, aim_ok_iff, claimTokens_ok_iff, ← noTicket, ne_eq, ← noPermissions,
    ne_eq, ← written.permissions_eq_nil_iff]
  simp only [← written.claimToken_eq_single_iff, ne_eq, ← noFormat]
  constructor
  · rintro ⟨⟨oneAim, somePermission⟩, format⟩
    exact { written with oneAim, somePermission, format }
  · intro complete
    exact ⟨⟨complete.oneAim, complete.somePermission⟩, complete.format⟩

/-- The claim tokens of a request are those of the value that it is read from. -/
private theorem Written.pushes {tokens : List ClaimToken}
    (listed : request.claimTokens = .ok tokens) : Pushes json tokens := by
  have held := written.claimToken
  have formatHeld := written.claimTokenFormat
  rw [claimTokens] at listed
  rw [Pushes]
  rcases pushed : request.claimToken with _ | token | several <;> rw [pushed] at held listed
  · cases listed
    rcases held with absent | null
    · rw [absent]
    · rw [null]
  · obtain ⟨_, given, rfl⟩ := held
    rw [given]
    rcases known : request.claimTokenFormat with _ | format <;> rw [known] at listed formatHeld
    · cases listed
    · cases listed
      obtain ⟨_, beside, rfl⟩ := formatHeld
      exact ⟨format, beside, rfl⟩
  · cases listed
    obtain ⟨_, given, items, rfl, each⟩ := held
    rw [given]
    exact each

end

/-- A value is accepted exactly if it stands for a request that can be answered, and as that request.
Its claim tokens are those of the value. Every other value is an invalid request. -/
theorem ofJson_exact (json : Json) :
    (∀ request, ofJson json = .ok request ↔ IsWritten json request) ∧
      ((∃ request tokens, ofJson json = .ok request ∧ request.claimTokens = .ok tokens ∧
          Pushes json tokens) ∨
        (∀ request, ¬ IsWritten json request) ∧
          ∃ detail, ofJson json = .error (.invalidRequest detail)) := by
  have exact : ∀ request, ofJson json = .ok request ↔ IsWritten json request := by
    intro request
    rw [ofJson_ok_iff, shape_iff]
    constructor
    · rintro ⟨written, passes⟩
      exact written.check_ok_iff.mp passes
    · intro complete
      exact ⟨complete.toWritten, complete.toWritten.check_ok_iff.mpr complete⟩
  refine ⟨exact, ?_⟩
  cases read : ofJson json with
  | ok request =>
    obtain ⟨-, passes⟩ := ofJson_ok_iff.mp read
    obtain ⟨-, tokens, listed⟩ := (check_ok_iff request).mp passes
    exact .inl ⟨request, tokens, rfl, listed, ((exact request).mp read).toWritten.pushes listed⟩
  | error error =>
    obtain ⟨detail, rfl⟩ := ofJson_error read
    refine .inr ⟨fun request complete => ?_, detail, rfl⟩
    have accepted := (exact request).mpr complete
    rw [read] at accepted
    cases accepted

/-- A request can be written as an array, which is no object. -/
theorem ofJson_array :
    ofJson (.array [.string "t1"]) = .ok (forTicket "t1") ∧
      ¬ ∃ members, Json.array [.string "t1"] = .object members :=
  ⟨rfl, nofun⟩

end TokenRequest

end UmaGrant
