import UmaGrant.Json.Value
import UmaGrant.Json.Shortest
import UmaGrant.Json.Printer
import UmaGrant.Text.Quoted
/-! # Reading typed values from JSON

A `Shape` reads a JSON value as a value of a type or says what is wrong with it. Records may be
written as objects or as arrays that list the fields in order. An object is examined member by
member in name order, so the complaint is about the first bad member in that order; only then are
missing fields reported, in the order of the record.
-/

namespace UmaGrant

/-- What a value is, as far as a complaint about it says. -/
inductive Found where
  | null
  | bool (value : Bool)
  | integer (value : Int)
  | double (value : Double)
  | string (text : String)
  | sequence
  | map
deriving DecidableEq, Repr

def Found.of : Json → Found
  | .null => .null
  | .bool value => .bool value
  | .number (.integer value) => .integer value
  | .number (.double value) => .double value
  | .string text => .string text
  | .array _ => .sequence
  | .object _ => .map

/-- How a complaint names a value. -/
def Found.message : Found → String
  | .null => "null"
  | .bool value => "boolean `" ++ (if value then "true" else "false") ++ "`"
  | .integer value => "integer `" ++ String.ofList (Json.integerText value) ++ "`"
  | .double value => "floating point `" ++ String.ofList value.render ++ "`"
  | .string text => "string " ++ Text.quote text
  | .sequence => "sequence"
  | .map => "map"

/-- What is wrong with a value. -/
inductive ShapeError where
  /-- A value of another kind. -/
  | wrongType (found : Found) (expected : String)
  /-- A value of the right kind that is out of range. -/
  | wrongValue (found : Found) (expected : String)
  /-- Too few or too many items. -/
  | wrongLength (length : Nat) (expected : String)
  | missingField (name : String)
  | unknownVariant (name : String) (known : List String)
  /-- No alternative of a union fits. -/
  | noAlternative (union : String)
  /-- A text that is not written in the format of its field. -/
  | malformed (complaint : String)
deriving DecidableEq, Repr

/-- The names of variants as a complaint lists them. -/
def oneOfNames : List String → String
  | [] => "there are no variants"
  | [only] => "expected `" ++ only ++ "`"
  | [first, second] => "expected `" ++ first ++ "` or `" ++ second ++ "`"
  | names => "expected one of " ++ String.intercalate ", " (names.map fun name => "`" ++ name ++ "`")

def ShapeError.message : ShapeError → String
  | .wrongType found expected => "invalid type: " ++ found.message ++ ", expected " ++ expected
  | .wrongValue found expected => "invalid value: " ++ found.message ++ ", expected " ++ expected
  | .wrongLength length expected =>
    "invalid length " ++ toString length ++ ", expected " ++ expected
  | .missingField name => "missing field `" ++ name ++ "`"
  | .unknownVariant name known => "unknown variant `" ++ name ++ "`, " ++ oneOfNames known
  | .noAlternative union => "data did not match any variant of untagged enum " ++ union
  | .malformed complaint => complaint

/-- Reads a JSON value as a value of a type. -/
abbrev Shape (α : Type) := Json → Except ShapeError α

namespace Shape

variable {α β : Type}

/-- The complaint that a value is of another kind. -/
def mismatch (expected : String) (json : Json) : Except ShapeError α :=
  .error (.wrongType (.of json) expected)

def any : Shape Json := .ok

def string : Shape String
  | .string text => .ok text
  | json => mismatch "a string" json

/-- Reads items in order, up to the first bad one. -/
def items (shape : Shape α) : List Json → Except ShapeError (List α)
  | [] => .ok []
  | json :: rest => do
    let item ← shape json
    let more ← items shape rest
    .ok (item :: more)

def list (shape : Shape α) : Shape (List α)
  | .array values => items shape values
  | json => mismatch "a sequence" json

def nullable (shape : Shape α) : Shape (Option α)
  | .null => .ok none
  | json => (shape json).map some

def bounded (low high : Int) (expected : String) : Shape Int
  | .number (.integer value) =>
    if low ≤ value ∧ value ≤ high then .ok value
    else .error (.wrongValue (.integer value) expected)
  | json => mismatch expected json

/-- A signed whole number of 64 bits. -/
def signed : Shape Int := bounded (-Int.pow 2 63) (Int.pow 2 63 - 1) "i64"

/-- A count, of 64 bits. -/
def count : Shape Nat := fun json => (bounded 0 (Int.pow 2 64 - 1) "usize" json).map Int.toNat

def variantOf (variants : List (String × α)) (name : String) : Except ShapeError α :=
  match Dict.lookup name variants with
  | some variant => .ok variant
  | none => .error (.unknownVariant name (variants.map (·.1)))

end Shape

/-- What a document format allows beyond the common rules. -/
structure Dialect where
  /-- Whether a record that is written as an array may have surplus items. -/
  surplusItems : Bool
  /-- Whether a value may stand beside the name of a variant that carries nothing. -/
  emptyPayload : Json → Bool

/-- The rules of JSON documents. -/
def Dialect.json : Dialect where
  surplusItems := false
  emptyPayload
    | .null => true
    | _ => false

/-- One of several names, written as the name or as an object with the name as its only member. -/
def Shape.variant {α : Type} (dialect : Dialect) (variants : List (String × α)) : Shape α
  | .string name => Shape.variantOf variants name
  | .object [(name, payload)] => do
    let variant ← Shape.variantOf variants name
    if dialect.emptyPayload payload then .ok variant else Shape.mismatch "unit" payload
  | .object _ => .error (.wrongValue .map "map with a single key")
  | json => Shape.mismatch "string or map" json

/-! ## Records -/

/-- The fields of an object as far as they could be read. -/
inductive Gathered (α : Type) where
  | complete (value : α)
  /-- The first bad member in name order, and the first missing field in record order. -/
  | faulty (bad : Option (String × ShapeError)) (missing : Option String)

/-- Of two bad members the one that is first in name order. -/
def firstBad : Option (String × ShapeError) → Option (String × ShapeError) →
    Option (String × ShapeError)
  | some left, some right => if right.1 < left.1 then some right else some left
  | some left, none => some left
  | none, right => right

/-- What keeps an array from being a record. -/
inductive ItemFault where
  | bad (error : ShapeError)
  /-- The array ends in front of a field that must be there. -/
  | short (index : Nat)

/-- A way to read some fields of a record, from either way to write it. -/
structure Fields (α : Type) where
  /-- How many fields there are. -/
  size : Nat
  /-- Reads the fields from the members of an object. -/
  fromMembers : List (String × Json) → Gathered α
  /-- Reads the fields from the items of an array, of which so many were read before. -/
  fromItems : Nat → List Json → Except ItemFault (α × List Json)

namespace Fields

variable {α β : Type}

/-- No field and a known value. -/
def pure (value : α) : Fields α where
  size := 0
  fromMembers _ := .complete value
  fromItems _ items := .ok (value, items)

/-- One field, which reads as `absent` where it is not written. -/
def field (name : String) (shape : Shape α) (absent : Option α) : Fields α where
  size := 1
  fromMembers members :=
    match Dict.lookup name members with
    | some json =>
      match shape json with
      | .ok value => .complete value
      | .error error => .faulty (some (name, error)) none
    | none =>
      match absent with
      | some value => .complete value
      | none => .faulty none (some name)
  fromItems
    | _, json :: rest =>
      match shape json with
      | .ok value => .ok (value, rest)
      | .error error => .error (.bad error)
    | index, [] =>
      match absent with
      | some value => .ok (value, [])
      | none => .error (.short index)

def required (name : String) (shape : Shape α) : Fields α := field name shape none

/-- A field with a value for when it is not written. -/
def defaulted (name : String) (default : α) (shape : Shape α) : Fields α :=
  field name shape (some default)

/-- A field that may be left out or null. -/
def optional (name : String) (shape : Shape α) : Fields (Option α) :=
  field name (Shape.nullable shape) (some none)

def apply (left : Fields (α → β)) (right : Fields α) : Fields β where
  size := left.size + right.size
  fromMembers members :=
    match left.fromMembers members, right.fromMembers members with
    | .complete function, .complete value => .complete (function value)
    | .faulty bad missing, .complete _ => .faulty bad missing
    | .complete _, .faulty bad missing => .faulty bad missing
    | .faulty bad missing, .faulty worse further =>
      .faulty (firstBad bad worse) (missing <|> further)
  fromItems index items := do
    let (function, rest) ← left.fromItems index items
    let (value, rest) ← right.fromItems (index + left.size) rest
    .ok (function value, rest)

/-- The shape of the record with the given name and fields. -/
def read (dialect : Dialect) (name : String) (fields : Fields α) : Shape α
  | .object members =>
    match fields.fromMembers members with
    | .complete value => .ok value
    | .faulty (some (_, error)) _ => .error error
    | .faulty none (some missing) => .error (.missingField missing)
    | .faulty none none => .error (.malformed "")
  | .array items =>
    match fields.fromItems 0 items with
    | .error (.bad error) => .error error
    | .error (.short index) =>
      .error (.wrongLength index ("struct " ++ name ++ " with " ++ toString fields.size ++
        (if fields.size = 1 then " element" else " elements")))
    | .ok (value, rest) =>
      if rest.isEmpty || dialect.surplusItems then .ok value
      else .error (.wrongLength items.length "fewer elements in array")
  | json => Shape.mismatch ("struct " ++ name) json

end Fields

end UmaGrant
