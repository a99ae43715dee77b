import UmaGrant.Json.Shape
/-! # Keys in JSON

A key is a JSON object. Some of its members are common to keys of all kinds and may be left out;
the others depend on its kind, and each has to be there once. A member without a meaning for its
kind does not count.
-/

namespace UmaGrant

structure KeyKind where
  name : String
  /-- Whether the key lies on a named curve. -/
  onCurve : Bool
  /-- The members that hold the key. -/
  parts : List String
deriving DecidableEq, Repr

namespace KeyParameters

def kinds : List KeyKind :=
  [⟨"EC", true, ["x", "y"]⟩, ⟨"RSA", false, ["n", "e"]⟩, ⟨"oct", false, ["k"]⟩,
    ⟨"OKP", true, ["x"]⟩]

def curves : List String := ["P-256", "P-384", "P-521", "Ed25519"]

/-! ## Common members -/

/-- The name of an algorithm, known or not, alone or as the only member of an object. -/
def algorithmName : Shape Unit
  | .string _ => .ok ()
  | .object [(_, .null)] => .ok ()
  | .object [(_, .object [])] => .ok ()
  | .object [(_, payload)] => Shape.mismatch "unit" payload
  | .object _ => .error (.wrongValue .map "map with a single key")
  | json => Shape.mismatch "string or map" json

/-- A text without further meaning. -/
def text : Shape Unit := fun json => (Shape.string json).map fun _ => ()

def texts : Shape Unit := fun json => (Shape.list Shape.string json).map fun _ => ()

def commonShapes : List (String × Shape Unit) :=
  [("use", text), ("key_ops", texts), ("alg", algorithmName), ("kid", text), ("x5u", text),
    ("x5c", texts), ("x5t", text), ("x5t#S256", text)]

/-- Examines the common members in order, each of which may be null and stands at most once. `seen`
lists those before. -/
def checkCommon (seen : List String) : List (String × Json) → Except ShapeError Unit
  | [] => .ok ()
  | (name, json) :: rest =>
    match Dict.lookup name commonShapes with
    | none => checkCommon seen rest
    | some shape => do
      if seen.contains name then throw (.malformed ("duplicate field `" ++ name ++ "`"))
      let _ ← Shape.nullable shape json
      checkCommon (name :: seen) rest

/-! ## Members of a kind -/

/-- Whether a member stands once and has a shape. -/
def holdsOnce {α : Type} (shape : Shape α) (name : String) (members : List (String × Json)) :
    Bool :=
  match members.filter (·.1 = name) with
  | [(_, json)] => (shape json).isOk
  | _ => false

/-- One of some names. -/
def oneOf (names : List String) : Shape Unit :=
  Shape.variant .json (names.map fun name => (name, ()))

/-- Whether members hold a key of a kind. -/
def holdsKind (members : List (String × Json)) (kind : KeyKind) : Bool :=
  holdsOnce (oneOf [kind.name]) "kty" members &&
    (!kind.onCurve || holdsOnce (oneOf curves) "crv" members) &&
    kind.parts.all fun part => holdsOnce Shape.string part members

/-- Examines the members of a key. -/
def checkKey (members : List (String × Json)) : Except ShapeError Unit := do
  checkCommon [] members
  if kinds.any (holdsKind members) then .ok () else .error (.noAlternative "AlgorithmParameters")

end KeyParameters

end UmaGrant
