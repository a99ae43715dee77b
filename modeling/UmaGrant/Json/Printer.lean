import UmaGrant.Json.Value
import UmaGrant.Json.Shortest
import UmaGrant.Text.Hex
/-! # The compact text of JSON values

No blanks, members in the order in which the value lists them, and only those characters escaped
that a JSON string cannot hold.
-/

namespace UmaGrant.Json

def escapeChar (char : Char) : List Char :=
  if char = '"' then ['\\', '"']
  else if char = '\\' then ['\\', '\\']
  else if char = '\x08' then ['\\', 'b']
  else if char = '\x0c' then ['\\', 'f']
  else if char = '\n' then ['\\', 'n']
  else if char = '\r' then ['\\', 'r']
  else if char = '\t' then ['\\', 't']
  else if char.toNat < 0x20 then '\\' :: 'u' :: Hex.ofNat 4 char.toNat
  else [char]

def quoted (text : String) : List Char := '"' :: text.toList.flatMap escapeChar ++ ['"']

def integerText (value : Int) : List Char :=
  if value < 0 then '-' :: Nat.toDigits 10 value.natAbs else Nat.toDigits 10 value.natAbs

def numberText : Number → List Char
  | .integer value => integerText value
  | .double value => value.render

mutual

def compact : Json → List Char
  | .null => ['n', 'u', 'l', 'l']
  | .bool true => ['t', 'r', 'u', 'e']
  | .bool false => ['f', 'a', 'l', 's', 'e']
  | .number value => numberText value
  | .string text => quoted text
  | .array items => '[' :: compactItems items
  | .object members => '\x7b' :: compactMembers members

/-- The text of the items of an array and its closing bracket. -/
def compactItems : List Json → List Char
  | [] => [']']
  | [last] => compact last ++ [']']
  | item :: rest => compact item ++ ',' :: compactItems rest

/-- The text of the members of an object and its closing brace. -/
def compactMembers : List (String × Json) → List Char
  | [] => ['\x7d']
  | [(name, value)] => quoted name ++ ':' :: compact value ++ ['\x7d']
  | (name, value) :: rest => quoted name ++ ':' :: compact value ++ ',' :: compactMembers rest

end

def render (json : Json) : String := String.ofList json.compact

end UmaGrant.Json
