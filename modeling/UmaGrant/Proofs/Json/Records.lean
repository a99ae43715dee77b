import Mathlib.Data.List.Forall2
import UmaGrant.Json.Shape
import UmaGrant.Proofs.Consultation
/-! # What records are read from

A record is written as an object or as an array. A field stands under its name in the one and at its
place in the other, and what is read of it depends on nothing else. So what a record is read as is a
relation between the record and the values of its fields, which says nothing of the order in which they
are examined and of which complaint comes first.
-/

namespace UmaGrant

namespace Json

/-- The value of a field of a record. -/
def given? (json : Json) (name : String) (place : Nat) : Option Json :=
  match json with
  | .object members => Dict.lookup name members
  | .array items => items[place]?
  | _ => none

/-- Whether a value is written as a record with so many fields. The last items of an array may be left
out, but it has no other ones. -/
def IsRecord (size : Nat) : Json → Prop
  | .object _ => True
  | .array items => items.length ≤ size
  | _ => False

/-- Whether a field is left out or null. -/
def IsAbsent (given : Option Json) : Prop := given = none ∨ given = some .null

/-- Whether a field that may be left out or null has a content. -/
def Holds {α : Type} (writes : Json → α → Prop) (given : Option Json) : Option α → Prop
  | none => IsAbsent given
  | some value => ∃ json, given = some json ∧ writes json value

/-- Whether a value is an array of values that stand for the values of a list, in its order. -/
def Lists {α : Type} (writes : Json → α → Prop) (json : Json) (values : List α) : Prop :=
  ∃ items, json = .array items ∧ List.Forall₂ writes items values

/-- Whether a value is a text. -/
def Spells (json : Json) (text : String) : Prop := json = .string text

/-- Whether a value is an array of texts. -/
def SpellsAll (json : Json) (texts : List String) : Prop := json = .strings texts

theorem not_spells_null (text : String) : ¬ Spells .null text := nofun

theorem not_lists_null {α : Type} {writes : Json → α → Prop} (values : List α) :
    ¬ Lists writes .null values := by
  rintro ⟨_, ⟨⟩, _⟩

/-- Only what is absent stands for no content. -/
theorem Holds.isAbsent_iff {α : Type} {writes : Json → α → Prop} {given : Option Json}
    {content : Option α} (holds : Holds writes given content)
    (present : ∀ value, ¬ writes .null value) : IsAbsent given ↔ content = none := by
  cases content with
  | none => exact ⟨fun _ => rfl, fun _ => holds⟩
  | some value =>
    obtain ⟨json, found, written⟩ := holds
    refine ⟨fun absent => ?_, nofun⟩
    rw [found] at absent
    rcases absent with none | null
    · cases none
    · cases null
      exact absurd written (present value)

end Json

namespace Shape

variable {α : Type} {shape : Shape α} {writes : Json → α → Prop}

theorem string_iff (json : Json) (text : String) : string json = .ok text ↔ json.Spells text := by
  cases json <;> simp [string, mismatch, Json.Spells]

private theorem items_iff (each : ∀ json value, shape json = .ok value ↔ writes json value)
    {jsons : List Json} {values : List α} :
    items shape jsons = .ok values ↔ List.Forall₂ writes jsons values := by
  induction jsons generalizing values with
  | nil => simp [items, eq_comm]
  | cons json rest ih =>
    rw [items, List.forall₂_cons_left_iff]
    constructor
    · intro read
      obtain ⟨value, first, read⟩ := except_bind_eq_ok_iff.mp read
      obtain ⟨more, others, read⟩ := except_bind_eq_ok_iff.mp read
      exact ⟨value, more, (each json value).mp first, ih.mp others, (Except.ok.inj read).symm⟩
    · rintro ⟨value, more, first, others, rfl⟩
      rw [(each json value).mpr first, ih.mpr others]
      rfl

/-- A list is read from an array of what its items are read from. -/
theorem list_iff (each : ∀ json value, shape json = .ok value ↔ writes json value)
    (json : Json) (values : List α) : list shape json = .ok values ↔ json.Lists writes values := by
  cases json with
  | array jsons =>
    refine (items_iff each).trans ⟨fun all => ⟨jsons, rfl, all⟩, ?_⟩
    rintro ⟨_, ⟨⟩, all⟩
    exact all
  | _ => simp [list, mismatch, Json.Lists]

theorem list_string_iff (json : Json) (texts : List String) :
    list string json = .ok texts ↔ json.SpellsAll texts := by
  refine (list_iff string_iff json texts).trans ?_
  have same : ∀ items, List.Forall₂ Json.Spells items texts ↔ items = texts.map Json.string := by
    intro items
    rw [← List.forall₂_eq_eq_eq, List.forall₂_map_right_iff]
    rfl
  simp only [Json.Lists, same, exists_eq_right, Json.SpellsAll, Json.strings]

/-- Null or a content is read from what holds that. -/
theorem nullable_iff (each : ∀ json value, shape json = .ok value ↔ writes json value)
    (present : ∀ value, ¬ writes .null value) (json : Json) (content : Option α) :
    nullable shape json = .ok content ↔ Json.Holds writes (some json) content := by
  by_cases null : json = .null
  · subst null
    cases content with
    | none => simp [nullable, Json.Holds, Json.IsAbsent]
    | some value => simp [nullable, Json.Holds, present]
  · have read : nullable shape json = (shape json).map some := by
      cases json <;> first | rfl | exact absurd rfl null
    rw [read]
    cases content with
    | none => cases shape json <;> simp [Json.Holds, Json.IsAbsent, null, Except.map]
    | some value =>
      simp only [Json.Holds, Option.some.injEq, exists_eq_left', ← each]
      cases shape json <;> simp [Except.map]

end Shape

namespace Fields

variable {α β : Type}

/-- A look-up of the fields of a record by their names and places. -/
abbrev Look := String → Nat → Option Json

/-- Whether fields are read as those values that stand in a relation to a look-up of the fields,
whichever way the record is written. -/
structure Reads (fields : Fields α) (means : Look → α → Prop) : Prop where
  members : ∀ members value, fields.fromMembers members = .complete value ↔
    means (fun name _ => Dict.lookup name members) value
  /-- Of the items of an array those at the places of the fields are taken. -/
  items : ∀ index items value rest, fields.fromItems index items = .ok (value, rest) ↔
    means (fun _ place => items[place]?) value ∧ rest = items.drop fields.size

theorem reads_pure (value : α) : (pure value).Reads fun _ result => result = value where
  members _ result := by simp [pure, eq_comm]
  items _ items result rest := by simp [pure, eq_comm]

/-- What a field is read as depends on what stands in its place, if anything does. -/
theorem reads_field (name : String) (means : Option Json → α → Prop) {shape : Shape α}
    {absent : Option α}
    (written : ∀ json value, shape json = .ok value ↔ means (some json) value)
    (leftOut : ∀ value, absent = some value ↔ means none value) :
    (field name shape absent).Reads fun look => means (look name 0) where
  members members value := by
    simp only [field]
    cases Dict.lookup name members with
    | none =>
      simp only [← leftOut]
      cases absent <;> simp
    | some json =>
      simp only [← written]
      cases shape json <;> simp
  items index items value rest := by
    cases items with
    | nil =>
      change _ ↔ means none value ∧ _
      rw [← leftOut]
      cases absent <;> simp [field, eq_comm]
    | cons json more =>
      change _ ↔ means (some json) value ∧ _
      rw [← written]
      cases read : shape json <;> simp [field, read, eq_comm]

section

variable {shape : Shape α} {writes : Json → α → Prop}

theorem reads_required (name : String)
    (each : ∀ json value, shape json = .ok value ↔ writes json value) :
    (required name shape).Reads fun look value =>
      ∃ json, look name 0 = some json ∧ writes json value :=
  reads_field name (fun given value => ∃ json, given = some json ∧ writes json value)
    (by simpa using each) (by simp)

/-- Any required field is what its shape reads. -/
theorem reads_shape (name : String) (shape : Shape α) :
    (required name shape).Reads fun look value =>
      ∃ json, look name 0 = some json ∧ shape json = .ok value :=
  reads_required name fun _ _ => Iff.rfl

theorem reads_defaulted (name : String) (default : α)
    (each : ∀ json value, shape json = .ok value ↔ writes json value) :
    (defaulted name default shape).Reads fun look value =>
      (∃ json, look name 0 = some json ∧ writes json value) ∨ look name 0 = none ∧ value = default :=
  reads_field name
    (fun given value => (∃ json, given = some json ∧ writes json value) ∨ given = none ∧ value = default)
    (by simpa using each) (by simp [eq_comm])

theorem reads_optional (name : String)
    (each : ∀ json value, shape json = .ok value ↔ writes json value)
    (present : ∀ value, ¬ writes .null value) :
    (optional name shape).Reads fun look => Json.Holds writes (look name 0) :=
  reads_field name (Json.Holds writes) (Shape.nullable_iff each present)
    fun content => by cases content <;> simp [Json.Holds, Json.IsAbsent]

end

/-- Fields after fields are looked up at the places behind them. -/
theorem Reads.apply {left : Fields (α → β)} {right : Fields α} {first : Look → (α → β) → Prop}
    {second : Look → α → Prop} (reads : left.Reads first) (readsMore : right.Reads second) :
    (left.apply right).Reads fun look result => ∃ function value, first look function ∧
      second (fun name place => look name (left.size + place)) value ∧ result = function value where
  members members result := by
    simp only [Fields.apply, ← reads.members, ← readsMore.members]
    cases left.fromMembers members <;> cases right.fromMembers members <;> simp [eq_comm]
  items index items result rest := by
    have further : ∀ place, (items.drop left.size)[place]? = items[left.size + place]? :=
      fun place => List.getElem?_drop
    simp only [Fields.apply, except_bind_eq_ok_iff, Prod.exists, reads.items, readsMore.items,
      Except.ok.injEq, Prod.mk.injEq]
    constructor
    · rintro ⟨function, _, ⟨holds, rfl⟩, value, _, ⟨more, rfl⟩, rfl, rfl⟩
      simp only [further] at more
      exact ⟨⟨function, value, holds, more, rfl⟩, List.drop_drop⟩
    · rintro ⟨⟨function, value, holds, more, rfl⟩, rfl⟩
      simp only [← further] at more
      exact ⟨function, _, ⟨holds, rfl⟩, value, _, ⟨more, rfl⟩, rfl, List.drop_drop⟩

/-- What a record is read as. -/
theorem Reads.read_iff {fields : Fields α} {means : Look → α → Prop} (reads : fields.Reads means)
    (record : String) {json : Json} {value : α} :
    fields.read .json record json = .ok value ↔ json.IsRecord fields.size ∧ means json.given? value := by
  cases json with
  | object members =>
    change _ ↔ True ∧ means (fun name _ => Dict.lookup name members) value
    rw [← reads.members, true_and, read]
    cases fields.fromMembers members with
    | complete found => simp
    | faulty bad missing => cases bad <;> cases missing <;> simp
  | array items =>
    change _ ↔ items.length ≤ fields.size ∧ means (fun _ place => items[place]?) value
    have taken := reads.items 0 items
    rw [read]
    cases found : fields.fromItems 0 items with
    | error fault =>
      have nothing : ¬ means (fun _ place => items[place]?) value := fun holds => by
        have read := (taken value _).mpr ⟨holds, rfl⟩
        rw [found] at read
        cases read
      cases fault <;> simp [nothing]
    | ok pair =>
      obtain ⟨other, rest⟩ := pair
      obtain ⟨holds, rfl⟩ := (taken other rest).mp found
      have only : means (fun _ place => items[place]?) value ↔ other = value := by
        refine ⟨fun same => ?_, fun same => same ▸ holds⟩
        have read := (taken value _).mpr ⟨same, rfl⟩
        rw [found] at read
        exact (Prod.mk.inj (Except.ok.inj read)).1
      by_cases few : items.length ≤ fields.size <;> simp [few, only, Dialect.json]
  | _ => simp [read, Shape.mismatch, Json.IsRecord]

end Fields

end UmaGrant
