import UmaGrant.Url.Domain
import UmaGrant.Url.Path
/-! # Absolute URLs

Reads a text as an absolute URL and keeps its scheme and the segments of its path. Blanks around the
text, and tabs and line ends anywhere in it, do not count.
-/

namespace UmaGrant

structure Url where
  /-- The scheme, in lower case. -/
  scheme : String
  /-- The segments of a path that starts with a slash; none for any other path. -/
  segments : List String
deriving DecidableEq, Repr

namespace Url

/-- Whether a character does not count at either end of a text. -/
def isOuterBlank (char : Char) : Bool := char.toNat ≤ 0x20

/-- A text without what does not count at its ends. -/
def trimmed (text : List Char) : List Char :=
  ((text.dropWhile isOuterBlank).reverse.dropWhile isOuterBlank).reverse

def isSchemeChar (char : Char) : Bool :=
  char.isAlphanum || char = '+' || char = '-' || char = '.'

/-- The scheme in lower case, and what follows its colon. -/
def splitScheme? (chars : List Char) : Option (String × List Char) :=
  let scheme := counting (chars.takeWhile (· ≠ ':'))
  match chars.dropWhile (· ≠ ':') with
  | _ :: rest =>
    if scheme.head?.any Char.isAlpha && scheme.all isSchemeChar then
      some (String.ofList (scheme.map Char.toLower), rest)
    else none
  | [] => none

def endsAuthority (kind : SchemeKind) (char : Char) : Bool :=
  isSlash kind char || endsPath char

/-- What follows the last `@` of the authority, and how many characters stand before it. -/
def afterUserInfo? (kind : SchemeKind) (count : Nat) : List Char → Option (Nat × List Char)
  | [] => none
  | char :: rest =>
    if endsAuthority kind char then none
    else
      match afterUserInfo? kind (count + 1) rest with
      | some found => some found
      | none => if char = '@' then some (count, rest) else none

/-- The host at the front of an authority, up to its colon outside brackets, and the rest. -/
def splitHost (kind : SchemeKind) (bracketed : Bool) : List Char → List Char × List Char
  | [] => ([], [])
  | char :: rest =>
    if endsAuthority kind char || (char = ':' && !bracketed) then ([], char :: rest)
    else
      let inside := if char = '[' then true else if char = ']' then false else bracketed
      let (host, after) := splitHost kind inside rest
      (char :: host, after)

/-- What follows the digits behind the colon of an authority, if their number is at most 65535. -/
def afterPort? (number : Nat) : List Char → Option (List Char)
  | [] => some []
  | char :: rest =>
    if char.isDigit then
      let number := number * 10 + (char.toNat - '0'.toNat)
      if 65535 < number then none else afterPort? number rest
    else if ['/', '\\', '?', '#'].contains char then some (char :: rest)
    else none

/-- What follows an authority, if that is valid. -/
def afterAuthority? (kind : SchemeKind) (chars : List Char) : Option (List Char) := do
  let (userInfo, rest) :=
    match afterUserInfo? kind 0 chars with
    | some (count, rest) => (some count, rest)
    | none => (none, chars)
  if userInfo = some 0 ∧ (rest.head?.any (endsAuthority kind)) then none
  else
    let (host, after) := splitHost kind false rest
    let valid := if kind = .network then isHost host else isPlainHost host
    -- Credentials need a host; a lone colon is none.
    let credentials := userInfo.any fun count => 0 < count && chars.take count ≠ [':']
    if !valid then none
    else if host.isEmpty ∧ (credentials ∨ after.head? = some ':') then none
    else
      match after with
      | ':' :: digits => afterPort? 0 digits
      | other => some other

/-- The path after an authority. -/
def pathAfterAuthority (kind : SchemeKind) (chars : List Char) : List (List Char) :=
  match chars with
  | [] => if kind.isSpecial then [[]] else []
  | char :: rest =>
    if isSlash kind char then pathSegments kind rest
    else if endsPath char then if kind.isSpecial then [[]] else []
    else pathSegments kind (char :: rest)

/-- What follows a slash, if one is next. -/
def afterSlash? (kind : SchemeKind) (chars : List Char) : Option (List Char) :=
  match chars.dropWhile isSkipped with
  | char :: rest => if isSlash kind char then some rest else none
  | [] => none

/-- Whether the host of a file URL is the machine itself, which goes without saying. -/
def isThisMachine (host : List Char) : Bool :=
  host.isEmpty || domain? host = some ['l', 'o', 'c', 'a', 'l', 'h', 'o', 's', 't']

/-- The path of a file URL, if its host is valid. Unless the host is said to be the machine itself,
a drive letter may be parted from what follows it. -/
def filePath? (chars : List Char) : Option (List (List Char)) :=
  match afterSlash? .file chars with
  | none => some (pathSegments .file chars)
  | some first =>
    match afterSlash? .file first with
    | none => some (pathSegments .file first)
    | some rest =>
      let written := rest.takeWhile fun char => !endsAuthority .file char
      let host := counting written
      let after := rest.drop written.length
      if isLooseDrive host then some (pathSegments .file rest)
      else if isThisMachine host then some (pathAfterAuthority .file (counting after))
      else if isHost host then some (pathAfterAuthority .file after)
      else none

/-- The path of a URL of a scheme that is not for files, if its authority is valid. -/
def path? (kind : SchemeKind) (chars : List Char) : Option (List (List Char)) :=
  match kind, chars with
  | .other, '/' :: '/' :: rest => (afterAuthority? kind rest).map (pathAfterAuthority kind)
  | .other, '/' :: rest => some (pathSegments kind rest)
  | .other, _ => some []
  | _, _ =>
    (afterAuthority? kind (chars.dropWhile (isSlash kind))).map (pathAfterAuthority kind)

/-- The URL that a text stands for, if it is an absolute one. -/
def parse? (text : String) : Option Url := do
  let (scheme, rest) ← splitScheme? (trimmed text.toList)
  let kind := SchemeKind.of scheme
  let segments ← if kind = .file then filePath? rest else path? kind (counting rest)
  pure ⟨scheme, segments.map String.ofList⟩

end Url

end UmaGrant
