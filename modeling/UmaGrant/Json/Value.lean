import UmaGrant.Dict
import UmaGrant.Json.Double
/-! # JSON values

A number keeps its kind: `1` and `1.0` are different values. An object lists its members by
ascending name, each name once.
-/

namespace UmaGrant

inductive Number where
  /-- A whole number from `-2 ^ 63` to `2 ^ 64 - 1`, written without point and exponent. -/
  | integer (value : Int)
  /-- Every other number. -/
  | double (value : Double)
deriving DecidableEq, Repr

inductive Json where
  | null
  | bool (value : Bool)
  | number (value : Number)
  | string (value : String)
  | array (items : List Json)
  | object (members : List (String × Json))
deriving Repr, Inhabited

namespace Number

/-- Equality of numbers of the same kind; zero has two signs and is one number. -/
def sameNumber : Number → Number → Bool
  | .integer left, .integer right => left = right
  | .double left, .double right => left.sameNumber right
  | _, _ => false

end Number

namespace Json

def int (value : Int) : Json := .number (.integer value)

def nat (value : Nat) : Json := .number (.integer value)

def strings (texts : List String) : Json := .array (texts.map .string)

/-- The object with the given members; of two with one name the later one stays. -/
def ofMembers (members : List (String × Json)) : Json := .object (Dict.ofList members).entries

def ofDict (dict : Dict Json) : Json := .object dict.entries

def orNull : Option Json → Json
  | some value => value
  | none => .null

def member? (name : String) : Json → Option Json
  | .object members => Dict.lookup name members
  | _ => none

def string? : Json → Option String
  | .string text => some text
  | _ => none

mutual

/-- Equality of values: numbers by kind and amount, all else by content. -/
def sameValue : Json → Json → Bool
  | .null, .null => true
  | .bool left, .bool right => left = right
  | .number left, .number right => left.sameNumber right
  | .string left, .string right => left = right
  | .array left, .array right => sameItems left right
  | .object left, .object right => sameMembers left right
  | _, _ => false

def sameItems : List Json → List Json → Bool
  | [], [] => true
  | left :: lefts, right :: rights => sameValue left right && sameItems lefts rights
  | _, _ => false

/-- Member by member equality, in name order. -/
def sameMembers : List (String × Json) → List (String × Json) → Bool
  | [], [] => true
  | (leftName, left) :: lefts, (rightName, right) :: rights =>
    leftName = rightName && sameValue left right && sameMembers lefts rights
  | _, _ => false

end

end Json

/-- A member that is written only when there is a value. -/
def optionalMember (name : String) : Option Json → List (String × Json)
  | some value => [(name, value)]
  | none => []

end UmaGrant
