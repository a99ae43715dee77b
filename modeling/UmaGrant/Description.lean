import UmaGrant.GrantError
import UmaGrant.Namespace
/-! # Descriptions of resources

What the server knows about its resources: a name, scopes, and the sources from which a resource
is derived. A store of descriptions may be out of order, and then every look-up fails.
-/

namespace UmaGrant

structure Source where
  /-- The authorization server that guards the source. -/
  issuer : String
  /-- The identifier of the source there. -/
  derivationResourceId : String
deriving DecidableEq, Repr

namespace Source

def toJson (source : Source) : Json :=
  .ofMembers
    [("issuer", .string source.issuer),
      ("derivation_resource_id", .string source.derivationResourceId)]

def fields : Fields Source :=
  Fields.pure Source.mk
    |>.apply (.required "issuer" Shape.string)
    |>.apply (.required "derivation_resource_id" Shape.string)

def shape : Shape Source := fields.read .json "DerivedFrom"

end Source

structure Description where
  /-- The URL by which the resource is known. -/
  name : Option String
  resourceScopes : List String
  derivedFrom : List Source
deriving DecidableEq, Repr

namespace Description

def named (name : String) : Description := ⟨some name, [], []⟩

def addSource (description : Description) (source : Source) : Description :=
  { description with derivedFrom := description.derivedFrom ++ [source] }

def namespace? (description : Description) : Option String := description.name.bind namespaceOf

def toJson (description : Description) : Json :=
  .ofMembers <|
    optionalMember "name" (description.name.map .string) ++
      ("resource_scopes", .strings description.resourceScopes) ::
      if description.derivedFrom.isEmpty then []
      else [("derived_from", .array (description.derivedFrom.map Source.toJson))]

def fields : Fields Description :=
  Fields.pure Description.mk
    |>.apply (.optional "name" Shape.string)
    |>.apply (.defaulted "resource_scopes" [] (Shape.list Shape.string))
    |>.apply (.defaulted "derived_from" [] (Shape.list Source.shape))

def shape : Shape Description := fields.read .json "ResourceDescription"

end Description

/-- A store of descriptions. -/
structure Descriptions where
  entries : Dict Description
  /-- The error of every look-up while the store is out of order. -/
  outage : Option GrantError

namespace Descriptions

/-- A store in order that holds nothing. -/
def empty : Descriptions := ⟨.empty, none⟩

def lookup (descriptions : Descriptions) (id : String) :
    Except GrantError (Option Description) :=
  match descriptions.outage with
  | some error => .error error
  | none => .ok (descriptions.entries.get? id)

/-- Describes a resource, in place of what was known about it. -/
def describe (descriptions : Descriptions) (id : String) (description : Description) :
    Descriptions :=
  { descriptions with entries := descriptions.entries.insert id description }

/-- The namespace of a resource: that of its name if it has one, else that of its identifier. -/
def namespaceOf (descriptions : Descriptions) (id : String) :
    Except GrantError (Option String) := do
  match ← descriptions.lookup id with
  | some description =>
    match description.name with
    | some name => .ok (UmaGrant.namespaceOf name)
    | none => .ok (UmaGrant.namespaceOf id)
  | none => .ok (UmaGrant.namespaceOf id)

end Descriptions

end UmaGrant
