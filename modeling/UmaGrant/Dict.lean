/-! # Maps from text, in key order

Claims, descriptions and every other keyed collection of the engine is a finite map from text.
A `Dict` lists its entries by ascending key, so that walking it visits keys in the order in which
the engine reports them.
-/

namespace UmaGrant

/-- A finite map from text to values. -/
structure Dict (α : Type) where
  /-- The entries, by ascending key. -/
  entries : List (String × α)
deriving DecidableEq, Repr

namespace Dict

variable {α β : Type}

def empty : Dict α := ⟨[]⟩

instance : EmptyCollection (Dict α) := ⟨empty⟩
instance : Inhabited (Dict α) := ⟨empty⟩

/-- The value of the first entry under a key. -/
def lookup (key : String) : List (String × α) → Option α
  | [] => none
  | (name, value) :: rest => if name = key then some value else lookup key rest

/-- An entry put in its place among entries in key order; one with the same key gives way. -/
def place (key : String) (value : α) : List (String × α) → List (String × α)
  | [] => [(key, value)]
  | (name, old) :: rest =>
    if name = key then (key, value) :: rest
    else if key < name then (key, value) :: (name, old) :: rest
    else (name, old) :: place key value rest

def get? (dict : Dict α) (key : String) : Option α := lookup key dict.entries

def insert (dict : Dict α) (key : String) (value : α) : Dict α := ⟨place key value dict.entries⟩

def erase (dict : Dict α) (key : String) : Dict α :=
  ⟨dict.entries.filter fun entry => entry.1 ≠ key⟩

/-- The keys, ascending. -/
def keys (dict : Dict α) : List String := dict.entries.map (·.1)

/-- The values, by ascending key. -/
def values (dict : Dict α) : List α := dict.entries.map (·.2)

def contains (dict : Dict α) (key : String) : Bool := (dict.get? key).isSome

def size (dict : Dict α) : Nat := dict.entries.length

def isEmpty (dict : Dict α) : Bool := dict.entries.isEmpty

def filter (keep : String → α → Bool) (dict : Dict α) : Dict α :=
  ⟨dict.entries.filter fun entry => keep entry.1 entry.2⟩

def mapValues (change : α → β) (dict : Dict α) : Dict β :=
  ⟨dict.entries.map fun entry => (entry.1, change entry.2)⟩

/-- The map of a list of entries; of two with one key the later one stays. -/
def ofList (entries : List (String × α)) : Dict α :=
  entries.foldl (fun dict entry => dict.insert entry.1 entry.2) empty

theorem lookup_place_same (key : String) (value : α) (entries : List (String × α)) :
    lookup key (place key value entries) = some value := by
  induction entries with
  | nil => simp [place, lookup]
  | cons head rest ih =>
    obtain ⟨name, old⟩ := head
    by_cases same : name = key
    · simp [place, lookup, same]
    · by_cases before : key < name <;> simp [place, lookup, same, before, ih]

theorem lookup_place_other {key other : String} (differ : other ≠ key) (value : α)
    (entries : List (String × α)) :
    lookup other (place key value entries) = lookup other entries := by
  induction entries with
  | nil => simp [place, lookup, Ne.symm differ]
  | cons head rest ih =>
    obtain ⟨name, old⟩ := head
    by_cases same : name = key
    · subst same; simp [place, lookup, Ne.symm differ]
    · by_cases before : key < name <;> simp [place, lookup, same, before, ih, Ne.symm differ]

@[simp] theorem get?_insert_same (dict : Dict α) (key : String) (value : α) :
    (dict.insert key value).get? key = some value := lookup_place_same key value dict.entries

theorem get?_insert_other (dict : Dict α) {key other : String} (differ : other ≠ key) (value : α) :
    (dict.insert key value).get? other = dict.get? other :=
  lookup_place_other differ value dict.entries

@[simp] theorem get?_empty (key : String) : (empty : Dict α).get? key = none := rfl

end Dict

end UmaGrant
