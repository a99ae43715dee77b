import UmaGrant.Url
/-! # Namespaces of resources

Resources are grouped by the second segment of their URL's path: in `https://host/alice/medical/x`
the namespace is `medical`.
-/

namespace UmaGrant

/-- The namespace that a URL is in, if it has one. -/
def namespaceOf (name : String) : Option String := do
  let url ← Url.parse? name
  let segment ← url.segments[1]?
  if segment.isEmpty then none else some segment

end UmaGrant
