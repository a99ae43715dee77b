import UmaGrant.Json.Value
/-! # Values of configuration files

The values that a TOML document can hold. Settings are read from their JSON form.
-/

namespace UmaGrant.Toml

inductive Value where
  | string (text : String)
  | integer (value : Int)
  /-- A number with a fraction or an exponent, infinite or undefined ones included, as written. -/
  | float (text : String)
  | bool (value : Bool)
  /-- A date, a time, or both, as written. -/
  | moment (text : String)
  | array (items : List Value)
  | table (entries : List (String × Value))
deriving Repr, Inhabited

namespace Value

mutual

/-- The JSON form. A float becomes null, which no setting can be, and a moment an object of its
own, which is good for nothing but to be ignored. -/
def toJson : Value → Json
  | string text => .string text
  | integer value => .int value
  | float _ => .null
  | bool value => .bool value
  | moment text => .object [("moment", .string text)]
  | array items => .array (listToJson items)
  | table entries => .ofMembers (entriesToJson entries)

def listToJson : List Value → List Json
  | [] => []
  | item :: rest => toJson item :: listToJson rest

def entriesToJson : List (String × Value) → List (String × Json)
  | [] => []
  | (name, value) :: rest => (name, toJson value) :: entriesToJson rest

end

end Value

end UmaGrant.Toml
