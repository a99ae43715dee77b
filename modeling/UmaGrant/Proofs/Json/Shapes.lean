import UmaGrant.Permission
import UmaGrant.Proofs.Json.Reading
/-! # Records in JSON can be read

A record that is written as an object is read as that record: the members of an object can be looked up
in whatever order they were written, and each field reads its own member.
-/

namespace UmaGrant

open JsonText (Readable)

/-! ## Lists -/

namespace Shape

variable {α : Type}

/-- A list is read as what it was written for if all its items are. -/
theorem list_map {shape : Shape α} {toJson : α → Json}
    (reads : ∀ value, shape (toJson value) = .ok value) (values : List α) :
    list shape (.array (values.map toJson)) = .ok values := by
  change items shape (values.map toJson) = _
  induction values with
  | nil => rfl
  | cons value rest ih =>
    rw [List.map_cons, items, reads, ih]
    rfl

theorem list_string (texts : List String) : list string (.strings texts) = .ok texts :=
  @list_map String string .string (fun _ => rfl) texts

end Shape

/-! ## Fields -/

namespace Fields

variable {α β : Type} {members : List (String × Json)} {name : String}

/-- Whether the fields of a record are read from members as a value. -/
def Give (fields : Fields α) (members : List (String × Json)) (value : α) : Prop :=
  fields.fromMembers members = .complete value

theorem give_pure (value : α) : (pure value).Give members value := rfl

theorem Give.apply {left : Fields (α → β)} {right : Fields α} {function : α → β} {value : α}
    (first : left.Give members function) (second : right.Give members value) :
    (left.apply right).Give members (function value) := by
  unfold Give at first second ⊢
  simp only [Fields.apply, first, second]

theorem give_required {shape : Shape α} {json : Json} {value : α}
    (found : Dict.lookup name members = some json) (read : shape json = .ok value) :
    (required name shape).Give members value := by
  unfold Give
  simp only [required, field, found, read]

theorem give_defaulted {shape : Shape α} {json : Json} {value : α} (default : α)
    (found : Dict.lookup name members = some json) (read : shape json = .ok value) :
    (defaulted name default shape).Give members value := by
  unfold Give
  simp only [defaulted, field, found, read]

/-- A field that may be left out is read as what it was written for, if that is never null. -/
theorem give_optional {shape : Shape α} (toJson : α → Json) {value : Option α}
    (found : Dict.lookup name members = value.map toJson)
    (present : ∀ value, toJson value ≠ .null) (read : ∀ value, shape (toJson value) = .ok value) :
    (optional name shape).Give members value := by
  unfold Give
  cases value with
  | none => simp only [optional, field, found, Option.map_none]
  | some value =>
    have nullable : Shape.nullable shape (toJson value) = .ok (some value) := by
      unfold Shape.nullable
      split
      case h_1 null => exact absurd null (present value)
      case h_2 =>
        rw [read]
        rfl
    simp only [optional, field, found, Option.map_some, nullable]

theorem read_object {fields : Fields α} {value : α} (given : fields.Give members value)
    (dialect : Dialect) (record : String) :
    fields.read dialect record (.object members) = .ok value := by
  unfold Give at given
  simp only [read, given]

end Fields

/-- A member of an object with different names is found among the members as they were written. -/
theorem Json.lookup_ofMembers {members : List (String × Json)}
    (distinct : (members.map (·.1)).Nodup) (name : String) :
    Dict.lookup name (Dict.ofList members).entries = Dict.lookup name members :=
  Dict.get?_ofList distinct name

namespace JsonText

theorem readable_strings (depth : Nat) (texts : List String) :
    Readable (depth + 2) (.strings texts) := by
  refine .array fun item member => ?_
  obtain ⟨text, _, rfl⟩ := List.mem_map.mp member
  exact .string text

/-- An object can be read if all its members can. -/
theorem readable_ofMembers {depth : Nat} {members : List (String × Json)}
    (each : ∀ member ∈ members, Readable (depth + 1) member.2) :
    Readable (depth + 2) (.ofMembers members) :=
  .object (Dict.ordered_ofList members) fun member listed =>
    each member (Dict.mem_of_mem_ofList listed)

theorem readable_optionalMember {depth : Nat} {name : String} {value : Option Json}
    (readable : ∀ json, value = some json → Readable depth json) :
    ∀ member ∈ optionalMember name value, Readable depth member.2 := by
  intro member listed
  cases value with
  | none => cases listed
  | some json =>
    obtain rfl := List.mem_singleton.mp listed
    exact readable json rfl

end JsonText

/-! ## Permissions -/

namespace Permission

theorem readable_toJson (depth : Nat) (permission : Permission) :
    Readable (depth + 3) permission.toJson := by
  refine JsonText.readable_ofMembers (List.forall_mem_cons.mpr ⟨.string _, ?_⟩)
  refine List.forall_mem_cons.mpr ⟨JsonText.readable_strings depth _, ?_⟩
  refine JsonText.readable_optionalMember fun json given => ?_
  obtain ⟨policies, _, rfl⟩ := Option.map_eq_some_iff.mp given
  exact JsonText.readable_strings depth policies

/-- A permission is read as it was written. -/
theorem shape_toJson (permission : Permission) : shape permission.toJson = .ok permission := by
  obtain ⟨id, scopes, policies⟩ := permission
  have distinct : ((("resource_id", Json.string id) :: ("resource_scopes", Json.strings scopes) ::
      optionalMember "policies" (policies.map Json.strings)).map (·.1)).Nodup := by
    cases policies <;> simp [optionalMember]
  have found := Json.lookup_ofMembers distinct
  refine Fields.read_object ?_ _ _
  refine ((Fields.give_pure mk).apply ?_).apply ?_ |>.apply ?_
  · exact Fields.give_required (found _) rfl
  · exact Fields.give_defaulted [] (found _) (Shape.list_string scopes)
  · refine Fields.give_optional Json.strings ((found _).trans ?_) (fun _ => nofun) Shape.list_string
    cases policies <;> rfl

theorem readable_listToJson (depth : Nat) (permissions : List Permission) :
    Readable (depth + 4) (listToJson permissions) := by
  refine .array fun item member => ?_
  obtain ⟨permission, _, rfl⟩ := List.mem_map.mp member
  exact readable_toJson depth permission

/-- A list of permissions is read as it was written. -/
@[simp] theorem listShape_listToJson (permissions : List Permission) :
    listShape (listToJson permissions) = .ok permissions :=
  Shape.list_map shape_toJson permissions

end Permission

end UmaGrant
