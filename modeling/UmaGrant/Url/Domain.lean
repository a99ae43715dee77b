import UmaGrant.Url.Domain.Direction
import UmaGrant.Url.Domain.Joining
import UmaGrant.Url.Domain.Mapping
import UmaGrant.Url.Domain.Punycode
import UmaGrant.Url.Host
/-! # Domain names

Which texts may stand for a domain name, in ASCII or internationalised form. The characters of a
name are replaced by those that they count as and composed; each label of the outcome has to be one
that could also be written in ASCII.
-/

namespace UmaGrant.Url

/-- Whether an ASCII character may not stand in a domain name. -/
def isForbidden (char : Char) : Bool :=
  char.toNat ≤ 0x20 || char.toNat = 0x7F ||
    ['%', '#', '/', ':', '<', '>', '?', '@', '[', '\\', ']', '^', '|'].contains char

/-- The characters that a label in ASCII form stands for. They have to count as themselves. -/
def plainLabel? (label : List Char) : Option (List Char) :=
  match label with
  | 'x' :: 'n' :: '-' :: '-' :: rest =>
    (Punycode.decode? rest).filter fun plain => plain.all isKept && Text.compose plain = plain
  | other => some other

/-- How many characters a label with other characters than ASCII ones may have. -/
def labelLimit : Nat := 1000

def isLabel (plain : List Char) : Bool :=
  !plain.head?.any Text.isMark && joinersFit [] plain &&
    (plain.all (fun char => char.toNat < 0x80) || plain.length ≤ labelLimit)

/-- The form in which a domain name counts, if it is one. -/
def domain? (chars : List Char) : Option (List Char) := do
  let written ← Utf8.decode? (percentDecode chars)
  let counted ← written.mapM counted?
  let domain := Text.compose counted.flatten
  if domain.any isForbidden then none
  else
    let labels ← (Text.pieces (· = '.') domain).mapM plainLabel?
    if labels.all isLabel && directionsAgree labels then some domain else none

/-- Whether a text is the host of a URL of a well-known scheme: a domain name, or an address if it
looks like one. -/
def isHost (chars : List Char) : Bool :=
  match chars with
  | '[' :: _ => isBracketed chars
  | _ =>
    match domain? chars with
    | none => false
    | some domain => !domain.isEmpty && (!endsInNumber domain || isAddressV4 domain)

/-- Whether a character may not stand in the host of a URL of any scheme. -/
def isHostForbidden (char : Char) : Bool :=
  ['\x00', '\t', '\n', '\r', ' ', '#', '/', ':', '<', '>', '?', '@', '[', '\\', ']', '^',
    '|'].contains char

/-- Whether a text is the host of a URL of any other scheme, which may be empty. -/
def isPlainHost (chars : List Char) : Bool :=
  match chars with
  | '[' :: _ => isBracketed chars
  | _ => chars.all fun char => !isHostForbidden char

end UmaGrant.Url
