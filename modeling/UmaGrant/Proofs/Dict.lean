import UmaGrant.Dict
/-! # Maps by their look-ups

What erasing, filtering, emptiness and presence of keys mean for look-ups. Of the form of the entries
later proofs use that maps which start empty have each key once and in order.
-/

namespace UmaGrant.Dict

variable {α : Type}

private theorem lookup_filter (keep : String → Bool) (key : String) (entries : List (String × α)) :
    lookup key (entries.filter fun entry => keep entry.1) =
      if keep key then lookup key entries else none := by
  induction entries with
  | nil => exact (ite_self none).symm
  | cons head rest ih =>
    obtain ⟨name, value⟩ := head
    by_cases same : name = key
    · subst same
      cases kept : keep name <;> simp [lookup, kept, ih]
    · cases kept : keep name <;> simp [lookup, same, kept, ih]

/-- A map that is filtered by keys. -/
theorem get?_filter (dict : Dict α) (keep : String → Bool) (key : String) :
    (dict.filter fun key _ => keep key).get? key = if keep key then dict.get? key else none :=
  lookup_filter keep key dict.entries

theorem erase_eq_filter (dict : Dict α) (key : String) :
    dict.erase key = dict.filter fun name _ => decide (name ≠ key) := rfl

theorem filter_eq_self (dict : Dict α) {keep : String → Bool} (all : ∀ key, keep key = true) :
    (dict.filter fun key _ => keep key) = dict :=
  congrArg Dict.mk (List.filter_eq_self.mpr fun entry _ => all entry.1)

theorem filter_filter (dict : Dict α) (keep also : String → Bool) :
    (dict.filter fun key _ => keep key).filter (fun key _ => also key) =
      dict.filter fun key _ => also key && keep key :=
  congrArg Dict.mk List.filter_filter

@[simp] theorem get?_erase_same (dict : Dict α) (key : String) :
    (dict.erase key).get? key = none := by
  rw [erase_eq_filter, get?_filter dict fun name => decide (name ≠ key), if_neg (by simp)]

theorem get?_erase_other (dict : Dict α) {key other : String} (differ : other ≠ key) :
    (dict.erase key).get? other = dict.get? other := by
  rw [erase_eq_filter, get?_filter dict fun name => decide (name ≠ key), if_pos (by simpa)]

/-- Erasing a key takes its entry away and no other. -/
theorem get?_erase_eq_some_iff {dict : Dict α} {key other : String} {value : α} :
    (dict.erase key).get? other = some value ↔ other ≠ key ∧ dict.get? other = some value := by
  by_cases same : other = key
  · subst same
    simp
  · simp [get?_erase_other dict same, same]

theorem get?_insert (dict : Dict α) (key other : String) (value : α) :
    (dict.insert key value).get? other = if other = key then some value else dict.get? other := by
  by_cases same : other = key
  · subst same
    simp
  · simp [get?_insert_other dict same, same]

theorem contains_iff {dict : Dict α} {key : String} :
    dict.contains key = true ↔ ∃ value, dict.get? key = some value := Option.isSome_iff_exists

@[simp] theorem contains_insert (dict : Dict α) (key other : String) (value : α) :
    (dict.insert key value).contains other = true ↔ other = key ∨ dict.contains other = true := by
  rw [contains, get?_insert, contains]
  by_cases same : other = key <;> simp [same]

@[simp] theorem contains_erase (dict : Dict α) (key other : String) :
    (dict.erase key).contains other = true ↔ other ≠ key ∧ dict.contains other = true := by
  by_cases same : other = key
  · subst same
    simp [contains]
  · simp [contains, get?_erase_other dict same, same]

@[simp] theorem contains_empty (key : String) : (empty : Dict α).contains key = false := rfl

private theorem lookup_isSome_iff (key : String) (entries : List (String × α)) :
    (lookup key entries).isSome = true ↔ key ∈ entries.map (·.1) := by
  induction entries with
  | nil => simp [lookup]
  | cons head rest ih =>
    obtain ⟨name, value⟩ := head
    by_cases same : name = key
    · simp [lookup, same]
    · simpa [lookup, same, Ne.symm same] using ih

theorem mem_keys_iff {dict : Dict α} {key : String} :
    key ∈ dict.keys ↔ dict.contains key = true := (lookup_isSome_iff key dict.entries).symm

theorem mem_entries_of_get? {dict : Dict α} {key : String} {value : α}
    (found : dict.get? key = some value) : (key, value) ∈ dict.entries := by
  obtain ⟨entries⟩ := dict
  change lookup key entries = some value at found
  induction entries with
  | nil => cases found
  | cons entry rest ih =>
    rw [lookup] at found
    split at found
    case isTrue same =>
      cases found
      exact same ▸ List.mem_cons_self
    case isFalse => exact List.mem_cons_of_mem _ (ih found)

/-- A map is empty if and only if no look-up finds anything. -/
theorem isEmpty_iff {dict : Dict α} : dict.isEmpty = true ↔ ∀ key, dict.get? key = none := by
  constructor
  · intro nothing key
    rw [isEmpty, List.isEmpty_iff] at nothing
    rw [get?, nothing, lookup]
  · intro nothing
    obtain ⟨entries⟩ := dict
    cases entries with
    | nil => rfl
    | cons head rest =>
      have found := nothing head.1
      simp [get?, lookup] at found

private theorem mem_of_mem_place {key : String} {value : α} {entries : List (String × α)}
    {entry : String × α} (member : entry ∈ place key value entries) :
    entry = (key, value) ∨ entry ∈ entries := by
  induction entries with
  | nil => exact .inl (List.mem_singleton.mp member)
  | cons head rest ih =>
    rw [place] at member
    split at member
    · rcases List.mem_cons.mp member with rfl | member
      · exact .inl rfl
      · exact .inr (List.mem_cons_of_mem _ member)
    · split at member
      · exact List.mem_cons.mp member
      · rcases List.mem_cons.mp member with rfl | member
        · exact .inr List.mem_cons_self
        · exact (ih member).imp_right (List.mem_cons_of_mem _)

theorem mem_of_mem_ofList {entries : List (String × α)} {entry : String × α}
    (member : entry ∈ (ofList entries).entries) : entry ∈ entries := by
  have grown : ∀ dict : Dict α,
      entry ∈ (entries.foldl (fun dict entry => dict.insert entry.1 entry.2) dict).entries →
        entry ∈ entries ∨ entry ∈ dict.entries := by
    clear member
    induction entries with
    | nil => exact fun _ member => .inr member
    | cons first rest ih =>
      intro dict member
      rcases ih _ member with later | before
      · exact .inl (List.mem_cons_of_mem _ later)
      · rcases mem_of_mem_place before with rfl | before
        · exact .inl List.mem_cons_self
        · exact .inr before
  exact (grown empty member).resolve_right List.not_mem_nil

/-- The map of entries with different keys has just these entries. -/
theorem get?_ofList {entries : List (String × α)} (distinct : (entries.map (·.1)).Nodup)
    (key : String) : (ofList entries).get? key = lookup key entries := by
  have grown : ∀ dict : Dict α,
      (entries.foldl (fun dict entry => dict.insert entry.1 entry.2) dict).get? key =
        (lookup key entries).or (dict.get? key) := by
    induction entries with
    | nil => exact fun _ => rfl
    | cons entry rest ih =>
      intro dict
      obtain ⟨new, others⟩ := List.nodup_cons.mp distinct
      rw [List.foldl_cons, ih others, get?_insert, lookup]
      by_cases same : entry.1 = key
      · subst same
        have absent : lookup entry.1 rest = none := by
          rw [← Option.not_isSome_iff_eq_none, lookup_isSome_iff]
          exact new
        simp [absent]
      · rw [if_neg (Ne.symm same), if_neg same]
  exact (grown empty).trans (Option.or_none ..)

/-- A new key makes the map longer by one. -/
theorem size_insert_of_new {dict : Dict α} {key : String} (new : dict.get? key = none) (value : α) :
    (dict.insert key value).size = dict.size + 1 := by
  obtain ⟨entries⟩ := dict
  change lookup key entries = none at new
  change (place key value entries).length = entries.length + 1
  induction entries with
  | nil => rfl
  | cons head rest ih =>
    rw [lookup] at new
    split at new
    case isTrue => cases new
    case isFalse differs =>
      rw [place, if_neg differs]
      split
      · rfl
      · exact congrArg Nat.succ (ih new)

/-! ## Keys in order -/

/-- Whether the keys of a map are in order, each of them once. -/
def Ordered (dict : Dict α) : Prop := dict.keys.Pairwise (· < ·)

theorem ordered_empty : (empty : Dict α).Ordered := .nil

private theorem mem_place {key name : String} {value : α} {entries : List (String × α)}
    (member : name ∈ (place key value entries).map (·.1)) :
    name = key ∨ name ∈ entries.map (·.1) := by
  rw [← lookup_isSome_iff] at member ⊢
  by_cases same : name = key
  · exact .inl same
  · rw [lookup_place_other same] at member
    exact .inr member

private theorem pairwise_place (key : String) (value : α) {entries : List (String × α)}
    (ordered : (entries.map (·.1)).Pairwise (· < ·)) :
    ((place key value entries).map (·.1)).Pairwise (· < ·) := by
  induction entries with
  | nil => exact List.pairwise_singleton _ _
  | cons head rest ih =>
    obtain ⟨name, old⟩ := head
    obtain ⟨first, later⟩ := List.pairwise_cons.mp ordered
    rw [place]
    by_cases same : name = key
    · rw [if_pos same]
      exact same ▸ ordered
    · rw [if_neg same]
      by_cases before : key < name
      · rw [if_pos before]
        refine List.pairwise_cons.mpr ⟨fun other member => ?_, ordered⟩
        rcases List.mem_cons.mp member with rfl | member
        · exact before
        · exact String.lt_trans before (first other member)
      · rw [if_neg before]
        refine List.pairwise_cons.mpr ⟨fun other member => ?_, ih later⟩
        rcases mem_place member with rfl | member
        · exact (Std.lt_trichotomy name other).resolve_right (not_or.mpr ⟨same, before⟩)
        · exact first other member

theorem Ordered.insert {dict : Dict α} (ordered : dict.Ordered) (key : String) (value : α) :
    (dict.insert key value).Ordered := pairwise_place key value ordered

theorem ordered_ofList (entries : List (String × α)) : (ofList entries).Ordered := by
  have kept : ∀ dict : Dict α, dict.Ordered →
      (entries.foldl (fun dict entry => dict.insert entry.1 entry.2) dict).Ordered := by
    induction entries with
    | nil => exact fun _ ordered => ordered
    | cons entry rest ih => exact fun dict ordered => ih _ (ordered.insert entry.1 entry.2)
  exact kept empty ordered_empty

/-- What comes after all entries is placed at their end. -/
private theorem place_last {key : String} (value : α) {entries : List (String × α)}
    (after : ∀ name ∈ entries.map (·.1), name < key) :
    place key value entries = entries ++ [(key, value)] := by
  induction entries with
  | nil => rfl
  | cons head rest ih =>
    obtain ⟨name, old⟩ := head
    have before := after name List.mem_cons_self
    have differs : name ≠ key := fun same => String.lt_irrefl key (same ▸ before)
    have behind : ¬ key < name := String.lt_asymm before
    rw [place, if_neg differs, if_neg behind,
      ih fun other member => after other (List.mem_cons_of_mem _ member)]
    rfl

/-- Entries that are in order are the entries of their map. -/
theorem entries_ofList {entries : List (String × α)}
    (ordered : (entries.map (·.1)).Pairwise (· < ·)) : (ofList entries).entries = entries := by
  have grown : ∀ dict : Dict α, (dict.keys ++ entries.map (·.1)).Pairwise (· < ·) →
      (entries.foldl (fun dict entry => dict.insert entry.1 entry.2) dict).entries =
        dict.entries ++ entries := by
    clear ordered
    induction entries with
    | nil => exact fun dict _ => (List.append_nil _).symm
    | cons entry rest ih =>
      intro dict ordered
      have after : ∀ name ∈ dict.keys, name < entry.1 := fun name member =>
        (List.pairwise_append.mp ordered).2.2 name member entry.1 List.mem_cons_self
      have placed : (dict.insert entry.1 entry.2).entries = dict.entries ++ [entry] :=
        place_last entry.2 after
      rw [List.foldl_cons, ih, placed, List.append_assoc]
      · rfl
      · rw [keys, placed, List.map_append, List.append_assoc]
        exact ordered
  exact grown empty ordered

theorem Ordered.erase {dict : Dict α} (ordered : dict.Ordered) (key : String) :
    (dict.erase key).Ordered :=
  List.Pairwise.sublist (List.filter_sublist.map _) ordered

/-- Every entry is found under its key. -/
theorem Ordered.get?_of_mem {dict : Dict α} (ordered : dict.Ordered) {key : String} {value : α}
    (member : (key, value) ∈ dict.entries) : dict.get? key = some value := by
  obtain ⟨entries⟩ := dict
  change lookup key entries = some value
  induction entries with
  | nil => cases member
  | cons head rest ih =>
    obtain ⟨first, later⟩ := List.pairwise_cons.mp ordered
    rw [lookup]
    rcases List.mem_cons.mp member with rfl | member
    · exact if_pos rfl
    · have before := first key (List.mem_map_of_mem member)
      rw [if_neg (String.ne_of_lt before)]
      exact ih later member

theorem Ordered.filter {dict : Dict α} (ordered : dict.Ordered) (keep : String → α → Bool) :
    (dict.filter keep).Ordered :=
  List.Pairwise.sublist (List.filter_sublist.map _) ordered

/-- A map that is filtered by its entries. A key in order is there once, so no other entry comes to
light. -/
theorem Ordered.get?_filter {dict : Dict α} (ordered : dict.Ordered) (keep : String → α → Bool)
    (key : String) : (dict.filter keep).get? key = (dict.get? key).filter (keep key) := by
  obtain ⟨entries⟩ := dict
  change lookup key (entries.filter fun entry => keep entry.1 entry.2) =
    (lookup key entries).filter (keep key)
  induction entries with
  | nil => rfl
  | cons head rest ih =>
    obtain ⟨name, value⟩ := head
    obtain ⟨first, later⟩ := List.pairwise_cons.mp ordered
    have others := ih later
    by_cases same : name = key
    · subst same
      have absent : lookup name rest = none := by
        rw [← Option.not_isSome_iff_eq_none, lookup_isSome_iff]
        exact fun member => String.lt_irrefl name (first name member)
      rw [absent] at others
      cases kept : keep name value <;> simp [lookup, Option.filter_some, kept, others]
    · cases kept : keep name value <;> simp [lookup, kept, same, others]

end UmaGrant.Dict
