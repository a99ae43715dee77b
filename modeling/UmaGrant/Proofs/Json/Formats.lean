import UmaGrant.Contract
import UmaGrant.Description
import UmaGrant.Negotiation.Response
import UmaGrant.Proofs.Negotiation.Grammar
import UmaGrant.Proofs.Time.Written
import UmaGrant.Proofs.Token.Signed
import UmaGrant.Token.AccessToken
/-! # What is written is read again

Each format leaves out what is absent or empty, gives some members other names, or puts the members of
one value among those of another. For each of these there is a field that reads it, so a value is read
from its JSON form as it was, with all that is in it.
-/

namespace UmaGrant

/-- Whether the values of a kind are read as they were written, and no other ones are read. -/
structure RoundTrips {α : Type} (valid : α → Prop) (shape : Shape α) (toJson : α → Json) : Prop where
  written : ∀ value, valid value → shape (toJson value) = .ok value
  /-- What was read, from whatever it was, can be written and read again. -/
  again : ∀ json value, shape json = .ok value → valid value ∧ shape (toJson value) = .ok value

namespace RoundTrips

variable {α : Type} {valid : α → Prop} {shape : Shape α} {toJson : α → Json}

/-- It is enough that valid values are read as they were written and only those are read. -/
theorem of_valid (written : ∀ value, valid value → shape (toJson value) = .ok value)
    (read : ∀ json value, shape json = .ok value → valid value) : RoundTrips valid shape toJson :=
  ⟨written, fun json value known => ⟨read json value known, written value (read json value known)⟩⟩

/-- A format in which every value has a form. -/
theorem of_all (written : ∀ value, shape (toJson value) = .ok value) :
    RoundTrips (fun _ => True) shape toJson :=
  of_valid (fun value _ => written value) fun _ _ _ => trivial

end RoundTrips

/-! ## Members that are left out -/

theorem Json.string_ne_null (text : String) : Json.string text ≠ .null := by simp

theorem Json.array_ne_null (items : List Json) : Json.array items ≠ .null := by simp

/-- The object of members of which some may be left out. -/
def Json.ofSlots (slots : List (String × Option Json)) : Json :=
  .ofMembers (slots.flatMap fun slot => optionalMember slot.1 slot.2)

/-- A list, which is left out if it is empty. -/
def Json.unlessEmpty {α : Type} (toJson : α → Json) (values : List α) : Option Json :=
  if values.isEmpty then none else some (.array (values.map toJson))

namespace Fields

variable {α : Type}

private theorem names_slots (slots : List (String × Option Json)) :
    ((slots.flatMap fun slot => optionalMember slot.1 slot.2).map (·.1)).Sublist
      (slots.map (·.1)) := by
  induction slots with
  | nil => exact .slnil
  | cons slot rest ih =>
    obtain ⟨name, value⟩ := slot
    cases value with
    | none => exact .cons _ ih
    | some json => exact .cons_cons _ ih

/-- A member is looked up among those that are there. -/
private theorem lookup_slots (name : String) (slots : List (String × Option Json))
    (distinct : (slots.map (·.1)).Nodup) :
    Dict.lookup name (slots.flatMap fun slot => optionalMember slot.1 slot.2) =
      (Dict.lookup name slots).join := by
  induction slots with
  | nil => rfl
  | cons slot rest ih =>
    obtain ⟨other, value⟩ := slot
    obtain ⟨fresh, distinct⟩ := List.nodup_cons.mp distinct
    have later := ih distinct
    cases value with
    | some json =>
      change Dict.lookup name ((other, json) :: _) = _
      rw [Dict.lookup, Dict.lookup]
      split
      · rfl
      · exact later
    | none =>
      change Dict.lookup name (rest.flatMap fun slot => optionalMember slot.1 slot.2) = _
      rw [later, Dict.lookup]
      split
      · rename_i same
        subst same
        have keys : other ∈ (Dict.mk rest).keys ↔ (Dict.mk rest).contains other = true :=
          Dict.mem_keys_iff
        have nowhere : Dict.lookup other rest = none :=
          Option.not_isSome_iff_eq_none.mp (mt keys.mpr fresh)
        rw [nowhere]
        rfl
      · rfl

/-- A record is read from the members that are there. -/
theorem read_slots (slots : List (String × Option Json)) {fields : Fields α} {value : α}
    (distinct : (slots.map (·.1)).Nodup)
    (given : ∀ members, (∀ name, Dict.lookup name members = (Dict.lookup name slots).join) →
      fields.Give members value) (dialect : Dialect) (record : String) :
    fields.read dialect record (.ofSlots slots) = .ok value :=
  read_object (given _ fun name =>
    (Json.lookup_ofMembers (distinct.sublist (names_slots slots)) name).trans
      (lookup_slots name slots distinct)) dialect record

/-- A list that is written unless it is empty. -/
theorem give_list {shape : Shape α} (toJson : α → Json)
    {members : List (String × Json)} {name : String} {values : List α}
    (found : Dict.lookup name members = Json.unlessEmpty toJson values)
    (read : ∀ value, shape (toJson value) = .ok value) :
    (defaulted name [] (Shape.list shape)).Give members values := by
  cases values with
  | nil =>
    unfold Give
    simp only [defaulted, field, found, Json.unlessEmpty, List.isEmpty_nil, if_true]
  | cons first rest => exact give_defaulted [] found (Shape.list_map read _)

end Fields

/-! ## Formats -/

namespace ClaimToken

theorem shape_toJson (token : ClaimToken) : shape token.toJson = .ok token := by
  refine Fields.read_slots [("claim_token", some (.string token.token)),
    ("claim_token_format", some (.string token.format))] (by simp) (fun members found => ?_) _ _
  refine (Fields.give_pure mk).apply ?_ |>.apply ?_
  · exact Fields.give_required (found _) rfl
  · exact Fields.give_required (found _) rfl

end ClaimToken

namespace PushedTokens

theorem shape_toJson (pushed : PushedTokens) : shape pushed.toJson = .ok pushed := by
  cases pushed with
  | single token => rfl
  | many tokens =>
    have listed := Shape.list_map ClaimToken.shape_toJson tokens
    rw [toJson, shape, listed]
    simp

theorem toJson_ne_null (pushed : PushedTokens) : pushed.toJson ≠ .null := by
  cases pushed with
  | single token => exact Json.string_ne_null token
  | many tokens => exact Json.array_ne_null _

end PushedTokens

namespace TokenRequest

theorem shape_toJson (request : TokenRequest) : shape request.toJson = .ok request := by
  have slots : request.toJson = .ofSlots [("ticket", request.ticket.map .string),
      ("claim_token", request.claimToken.map PushedTokens.toJson),
      ("claim_token_format", request.claimTokenFormat.map .string),
      ("permissions", request.permissions.map Permission.listToJson),
      ("scope", request.scope.map .string)] := by
    simp [toJson, Json.ofSlots]
  rw [slots]
  refine Fields.read_slots _ (by simp) (fun members found => ?_) _ _
  refine (Fields.give_pure mk).apply ?_ |>.apply ?_ |>.apply ?_ |>.apply ?_ |>.apply ?_
  · exact Fields.give_optional Json.string (found _) Json.string_ne_null fun _ => rfl
  · exact Fields.give_optional PushedTokens.toJson (found _) PushedTokens.toJson_ne_null
      PushedTokens.shape_toJson
  · exact Fields.give_optional Json.string (found _) Json.string_ne_null fun _ => rfl
  · exact Fields.give_optional Permission.listToJson (found _) (fun _ => Json.array_ne_null _)
      Permission.listShape_listToJson
  · exact Fields.give_optional Json.string (found _) Json.string_ne_null fun _ => rfl

end TokenRequest

namespace AccessToken

theorem shape_toJson (token : AccessToken) : shape token.toJson = .ok token := by
  have slots : token.toJson = .ofSlots [("permissions", some (Permission.listToJson token.permissions)),
      ("contract", token.contract.map .string)] := by
    simp [toJson, Json.ofSlots, optionalMember]
  rw [slots]
  refine Fields.read_slots _ (by simp) (fun members found => ?_) _ _
  refine (Fields.give_pure mk).apply ?_ |>.apply ?_
  · exact Fields.give_required (found _) (Permission.listShape_listToJson _)
  · exact Fields.give_optional Json.string (found _) Json.string_ne_null fun _ => rfl

end AccessToken

namespace TokenClaims

private theorem signed_bounds {json : Json} {time : Int} (read : Shape.signed json = .ok time) :
    -Int.pow 2 63 ≤ time ∧ time ≤ Int.pow 2 63 - 1 := by
  unfold Shape.signed Shape.bounded at read
  split at read
  · split at read
    · cases read
      assumption
    · cases read
  · cases read

/-- Only times of 64 bits are read. -/
theorem dated_of_shape {json : Json} {claims : TokenClaims} (read : shape json = .ok claims) :
    claims.Dated := by
  have reads := (Fields.reads_pure mk).apply (Fields.reads_required "iss" Shape.string_iff)
    |>.apply (Fields.reads_required "aud" Shape.string_iff)
    |>.apply (Fields.reads_shape "exp" Shape.signed)
    |>.apply (Fields.reads_shape "iat" Shape.signed)
    |>.apply (Fields.reads_required "jti" Shape.string_iff)
    |>.apply (Fields.reads_required "permissions" (Shape.list_iff Permission.shape_iff))
    |>.apply (Fields.reads_optional "contract" Shape.string_iff Json.not_spells_null)
  obtain ⟨-, _, _, ⟨_, _, ⟨_, _, ⟨_, _, ⟨_, _, ⟨_, _, ⟨_, _, rfl, -, rfl⟩, -, rfl⟩, ⟨_, -, expiry⟩, rfl⟩,
    ⟨_, -, issuedAt⟩, rfl⟩, -, rfl⟩, -, rfl⟩, -, rfl⟩ := (reads.read_iff "UmaTokenClaims").mp read
  exact ⟨signed_bounds expiry, signed_bounds issuedAt⟩

end TokenClaims

namespace DerivationClaim

theorem shape_toJson (claim : DerivationClaim) : shape claim.toJson = .ok claim := by
  refine Fields.read_slots [("claim_token_format", some (.string claim.claimTokenFormat)),
    ("issuer", some (.string claim.issuer)),
    ("derivation_resource_id", some (.string claim.derivationResourceId)),
    ("resource_scopes", some (.strings claim.resourceScopes))] (by simp) (fun members found => ?_) _ _
  refine (Fields.give_pure mk).apply ?_ |>.apply ?_ |>.apply ?_ |>.apply ?_
  · exact Fields.give_required (found _) rfl
  · exact Fields.give_required (found _) rfl
  · exact Fields.give_required (found _) rfl
  · exact Fields.give_required (found _) (Shape.list_string _)

end DerivationClaim

namespace RequiredClaims

theorem shape_toJson (required : RequiredClaims) : shape required.toJson = .ok required := by
  have slots : required.toJson = .ofSlots [
      ("claim_token_format", some (.array (required.claimTypes.map .strings))),
      ("derivations", Json.unlessEmpty DerivationClaim.toJson required.derivations)] := by
    cases derivations : required.derivations <;>
      simp [toJson, Json.ofSlots, Json.unlessEmpty, optionalMember, derivations]
  rw [slots]
  refine Fields.read_slots _ (by simp) (fun members found => ?_) _ _
  refine (Fields.give_pure mk).apply ?_ |>.apply ?_
  · exact Fields.give_required (found _) (Shape.list_map Shape.list_string _)
  · exact Fields.give_list DerivationClaim.toJson (found _) DerivationClaim.shape_toJson

end RequiredClaims

namespace Source

theorem shape_toJson (source : Source) : shape source.toJson = .ok source := by
  refine Fields.read_slots [("issuer", some (.string source.issuer)),
    ("derivation_resource_id", some (.string source.derivationResourceId))] (by simp)
    (fun members found => ?_) _ _
  refine (Fields.give_pure mk).apply ?_ |>.apply ?_
  · exact Fields.give_required (found _) rfl
  · exact Fields.give_required (found _) rfl

end Source

namespace Description

theorem shape_toJson (description : Description) : shape description.toJson = .ok description := by
  have slots : description.toJson = .ofSlots [("name", description.name.map .string),
      ("resource_scopes", some (.strings description.resourceScopes)),
      ("derived_from", Json.unlessEmpty Source.toJson description.derivedFrom)] := by
    cases sources : description.derivedFrom <;>
      simp [toJson, Json.ofSlots, Json.unlessEmpty, optionalMember, sources]
  rw [slots]
  refine Fields.read_slots _ (by simp) (fun members found => ?_) _ _
  refine (Fields.give_pure mk).apply ?_ |>.apply ?_ |>.apply ?_
  · exact Fields.give_optional Json.string (found _) Json.string_ne_null fun _ => rfl
  · exact Fields.give_defaulted [] (found _) (Shape.list_string _)
  · exact Fields.give_list Source.toJson (found _) Source.shape_toJson

end Description

namespace TokenResponse

theorem shape_toJson (response : TokenResponse) : shape response.toJson = .ok response := by
  have slots : response.toJson = .ofSlots [("access_token", some (.string response.accessToken)),
      ("token_type", some (.string response.tokenType)),
      ("derivation_resource_id", response.derivationResourceId.map .string)] := by
    simp [toJson, Json.ofSlots, optionalMember]
  rw [slots]
  refine Fields.read_slots _ (by simp) (fun members found => ?_) _ _
  refine (Fields.give_pure mk).apply ?_ |>.apply ?_ |>.apply ?_
  · exact Fields.give_required (found _) rfl
  · exact Fields.give_required (found _) rfl
  · exact Fields.give_optional Json.string (found _) Json.string_ne_null fun _ => rfl

end TokenResponse

namespace PublicKey

/-- The numbers of a key are read from the members among which they stand. -/
private theorem numbersShape_members {numbers : KeyNumbers} {members : List (String × Json)}
    (found : ∀ member ∈ numberMembers numbers, Dict.lookup member.1 members = some member.2) :
    numbersShape (.object members) = .ok numbers := by
  cases numbers with
  | rsa modulus exponent =>
    simp only [numberMembers, List.forall_mem_cons] at found
    obtain ⟨kind, first, second, -⟩ := found
    rw [numbersShape, kind]
    refine Fields.read_object ((Fields.give_pure _).apply ?_ |>.apply ?_) .json "Rsa"
    · exact Fields.give_required first rfl
    · exact Fields.give_required second rfl
  | curve name x y =>
    simp only [numberMembers, List.forall_mem_cons] at found
    obtain ⟨kind, curve, first, second, -⟩ := found
    rw [numbersShape, kind]
    refine Fields.read_object ((Fields.give_pure _).apply ?_ |>.apply ?_ |>.apply ?_) .json "Ec"
    · exact Fields.give_required curve rfl
    · exact Fields.give_required first rfl
    · exact Fields.give_required second rfl

private theorem shape_members {key : PublicKey} {members : List (String × Json)}
    (id : Dict.lookup "kid" members = some (.string key.id))
    (use : Dict.lookup "use" members = some (.string key.use))
    (algorithm : Dict.lookup "alg" members = some (.string key.algorithm))
    (numbers : ∀ member ∈ numberMembers key.numbers, Dict.lookup member.1 members = some member.2) :
    shape (.object members) = .ok key := by
  have own : (Fields.pure (fun id use algorithm => (id, use, algorithm))
      |>.apply (.required "kid" Shape.string)
      |>.apply (.required "use" Shape.string)
      |>.apply (.required "alg" Shape.string)).read .json "Jwk" (.object members) =
        .ok (key.id, key.use, key.algorithm) := by
    refine Fields.read_object ((Fields.give_pure _).apply ?_ |>.apply ?_ |>.apply ?_) _ _
    · exact Fields.give_required id rfl
    · exact Fields.give_required use rfl
    · exact Fields.give_required algorithm rfl
  rw [shape, own]
  change (numbersShape (.object members) >>= _) = _
  rw [numbersShape_members numbers]
  rfl

theorem shape_toJson (key : PublicKey) : shape key.toJson = .ok key := by
  have distinct : (([("kid", Json.string key.id), ("use", .string key.use),
      ("alg", .string key.algorithm)] ++ numberMembers key.numbers).map (·.1)).Nodup := by
    cases key.numbers <;> simp [numberMembers]
  have found := Json.lookup_ofMembers distinct
  have among : ∀ member ∈ numberMembers key.numbers, Dict.lookup member.1
      ([("kid", Json.string key.id), ("use", .string key.use), ("alg", .string key.algorithm)] ++
        numberMembers key.numbers) = some member.2 := by
    cases key.numbers <;> simp [numberMembers, Dict.lookup]
  exact shape_members (found _) (found _) (found _) fun member listed =>
    (found member.1).trans (among member listed)

end PublicKey

namespace PublicKeys

theorem shape_toJson (set : PublicKeys) : shape set.toJson = .ok set := by
  refine Fields.read_slots [("keys", some (.array (set.keys.map PublicKey.toJson)))] (by simp)
    (fun members found => ?_) _ _
  exact (Fields.give_pure mk).apply
    (Fields.give_required (found _) (Shape.list_map PublicKey.shape_toJson _))

end PublicKeys

namespace Constraint

theorem shape_toJson (constraint : Constraint) : shape constraint.toJson = .ok constraint := by
  refine Fields.read_slots [("leftOperand", some (.string constraint.leftOperand)),
    ("operator", some (.string constraint.operator)), ("rightOperand", some constraint.rightOperand)]
    (by simp) (fun members found => ?_) _ _
  refine (Fields.give_pure mk).apply ?_ |>.apply ?_ |>.apply ?_
  · exact Fields.give_required (found _) rfl
  · exact Fields.give_required (found _) rfl
  · exact Fields.give_required (found _) rfl

end Constraint

namespace ContractPermission

theorem shape_toJson (permission : ContractPermission) : shape permission.toJson = .ok permission := by
  have slots : permission.toJson = .ofSlots [("assigner", some (.string permission.assigner)),
      ("assignee", some (.string permission.assignee)), ("target", some (.string permission.target)),
      ("action", some (.string permission.action)),
      ("constraints", Json.unlessEmpty Constraint.toJson permission.constraints)] := by
    cases constraints : permission.constraints <;>
      simp [toJson, Json.ofSlots, Json.unlessEmpty, optionalMember, constraints]
  rw [slots]
  refine Fields.read_slots _ (by simp) (fun members found => ?_) _ _
  refine (Fields.give_pure mk).apply ?_ |>.apply ?_ |>.apply ?_ |>.apply ?_ |>.apply ?_
  · exact Fields.give_required (found _) rfl
  · exact Fields.give_required (found _) rfl
  · exact Fields.give_required (found _) rfl
  · exact Fields.give_required (found _) rfl
  · exact Fields.give_list Constraint.toJson (found _) Constraint.shape_toJson

end ContractPermission

namespace Contract

/-- Whether a contract was issued at an instant that has a text. -/
def IsDated (contract : Contract) : Prop := Rfc3339.HasText contract.issued

theorem instantShape_instantToJson {instant : ZonedInstant} (dated : Rfc3339.HasText instant) :
    instantShape (instantToJson instant) = .ok instant := by
  obtain ⟨text, written⟩ := (Rfc3339.format_ok_iff instant).mpr dated
  rw [instantToJson, written]
  change instantShape (.string text) = _
  rw [instantShape, Rfc3339.parse_format written]

theorem shape_toJson {contract : Contract} (dated : contract.IsDated) :
    shape contract.toJson = .ok contract := by
  refine Fields.read_slots [("uid", some (.string contract.uid)),
    ("issued", some (instantToJson contract.issued)),
    ("permissions", some (.array (contract.permissions.map ContractPermission.toJson)))] (by simp)
    (fun members found => ?_) _ _
  refine (Fields.give_pure mk).apply ?_ |>.apply ?_ |>.apply ?_
  · exact Fields.give_required (found _) rfl
  · exact Fields.give_required (found _) (instantShape_instantToJson dated)
  · exact Fields.give_required (found _) (Shape.list_map ContractPermission.shape_toJson _)

private theorem hasText_of_instantShape {json : Json} {instant : ZonedInstant}
    (read : instantShape json = .ok instant) : Rfc3339.HasText instant := by
  unfold instantShape at read
  split at read
  · split at read
    · cases read
      exact Rfc3339.hasText_of_parse ‹_›
    · cases read
  · cases read

/-- Only instants that have a text are read. -/
theorem isDated_of_shape {json : Json} {contract : Contract} (read : shape json = .ok contract) :
    contract.IsDated := by
  have reads := (Fields.reads_pure mk).apply (Fields.reads_required "uid" Shape.string_iff)
    |>.apply (Fields.reads_shape "issued" instantShape)
    |>.apply (Fields.reads_shape "permissions" (Shape.list ContractPermission.shape))
  obtain ⟨-, _, _, ⟨_, _, ⟨_, _, rfl, -, rfl⟩, ⟨_, -, issued⟩, rfl⟩, -, rfl⟩ :=
    (reads.read_iff "Contract").mp read
  exact hasText_of_instantShape issued

end Contract

/-! ## All formats -/

/-- In every format what is written is read again. Times of signed tokens have 64 bits; a contract was
issued in a year of four digits, on a clock that is less than a day off, in whole minutes. A request that
passes its check is the one that its JSON form stands for. -/
theorem formats_roundTrip :
    RoundTrips (fun _ => True) TokenRequest.shape TokenRequest.toJson ∧
      RoundTrips (fun _ => True) PushedTokens.shape PushedTokens.toJson ∧
      RoundTrips (fun _ => True) Permission.shape Permission.toJson ∧
      RoundTrips (fun _ => True) AccessToken.shape AccessToken.toJson ∧
      RoundTrips TokenClaims.Dated TokenClaims.shape TokenClaims.toJson ∧
      RoundTrips (fun _ => True) RequiredClaims.shape RequiredClaims.toJson ∧
      RoundTrips (fun _ => True) Description.shape Description.toJson ∧
      RoundTrips (fun _ => True) TokenResponse.shape TokenResponse.toJson ∧
      RoundTrips (fun _ => True) PublicKeys.shape PublicKeys.toJson ∧
      RoundTrips Contract.IsDated Contract.shape Contract.toJson ∧
      ∀ request : TokenRequest, (∃ checked, request.check = .ok checked) →
        TokenRequest.ofJson request.toJson = .ok request :=
  ⟨.of_all TokenRequest.shape_toJson, .of_all PushedTokens.shape_toJson,
    .of_all Permission.shape_toJson, .of_all AccessToken.shape_toJson,
    .of_valid (fun _ => TokenClaims.shape_toJson) (fun _ _ => TokenClaims.dated_of_shape),
    .of_all RequiredClaims.shape_toJson, .of_all Description.shape_toJson,
    .of_all TokenResponse.shape_toJson, .of_all PublicKeys.shape_toJson,
    .of_valid (fun _ => Contract.shape_toJson) (fun _ _ => Contract.isDated_of_shape),
    fun request passes => TokenRequest.ofJson_ok_iff.mpr ⟨request.shape_toJson, passes⟩⟩

theorem formats_roundTrip_dated :
    let contract : Contract := ⟨"urn:c", ⟨⟨0⟩, 2 * 3600⟩, []⟩
    let claims : TokenClaims := ⟨"https://as.example", "https://rs.example", 300, 0, "t1", [], none⟩
    let request : TokenRequest := .forTicket "t1"
    Contract.shape contract.toJson = .ok contract ∧ TokenClaims.shape claims.toJson = .ok claims ∧
      TokenRequest.ofJson request.toJson = .ok request := by
  obtain ⟨-, -, -, -, tokens, -, -, -, -, contracts, requests⟩ := formats_roundTrip
  exact ⟨contracts.written _ ⟨by decide, by decide, by decide⟩,
    tokens.written _ ⟨by decide, by decide⟩, requests _ ⟨_, rfl⟩⟩

/-- A clock that is a whole day off has no text, so a contract that was issued on it is not read again. -/
theorem contract_dayOff :
    let contract : Contract := ⟨"urn:c", ⟨⟨0⟩, 24 * 3600⟩, []⟩
    contract.issued.year = 1970 ∧ contract.issued.offset % 60 = 0 ∧
      Rfc3339.format contract.issued = .error .offsetHour ∧
      ∀ read, Contract.shape contract.toJson ≠ .ok read := by
  refine ⟨by decide, by decide, by decide, fun read same => ?_⟩
  cases same

end UmaGrant
