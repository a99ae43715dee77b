import UmaGrant.Text.Hex
import UmaGrant.Text.Pieces
import UmaGrant.Text.Utf8
/-! # Paths of URLs

A path is read segment by segment. Characters that a path cannot hold are percent-encoded, dot
segments are resolved at once.
-/

namespace UmaGrant.Url

/-- The kinds of schemes, which differ in how the rest of a URL is read. -/
inductive SchemeKind where
  | file
  /-- A well-known scheme with an authority. -/
  | network
  | other
deriving DecidableEq, Repr

/-- The kind of a scheme in lower case. -/
def SchemeKind.of (scheme : String) : SchemeKind :=
  if scheme = "file" then .file
  else if ["http", "https", "ws", "wss", "ftp"].contains scheme then .network
  else .other

/-- Whether a backslash counts as a slash. -/
def SchemeKind.isSpecial (kind : SchemeKind) : Bool := kind ≠ .other

def isSlash (kind : SchemeKind) (char : Char) : Bool :=
  char = '/' || (kind.isSpecial && char = '\\')

/-- Whether a character starts the query or the fragment. -/
def endsPath (char : Char) : Bool := char = '?' || char = '#'

def percentByte (byte : UInt8) : List Char :=
  ['%', Hex.upperDigit (byte.toNat / 16), Hex.upperDigit (byte.toNat % 16)]

def isEncodedInPath (char : Char) : Bool :=
  char.toNat < 0x20 || 0x7E < char.toNat ||
    [' ', '"', '<', '>', '\x60', '#', '?', '\x7b', '\x7d'].contains char

def pathChar (char : Char) : List Char :=
  if isEncodedInPath char then (Utf8.encodeChar char).flatMap percentByte else [char]

/-- Whether a segment stands for the directory itself. -/
def isSingleDot (segment : List Char) : Bool :=
  segment = ['.'] || segment = ['%', '2', 'e'] || segment = ['%', '2', 'E']

/-- Whether a segment stands for the directory above. -/
def isDoubleDot (segment : List Char) : Bool :=
  match segment with
  | ['.', '.'] => true
  | ['.', '%', '2', e] => e = 'e' || e = 'E'
  | ['%', '2', e, '.'] => e = 'e' || e = 'E'
  | ['%', '2', e, '%', '2', f] => (e = 'e' || e = 'E') && (f = 'e' || f = 'E')
  | _ => false

/-- Whether a segment is a drive letter with a colon or a bar. -/
def isLooseDrive (segment : List Char) : Bool :=
  match segment with
  | [letter, mark] => letter.isAlpha && (mark = ':' || mark = '|')
  | _ => false

/-- The segments without the last one, unless that looks like a drive letter. -/
def shorten (segments : List (List Char)) : List (List Char) :=
  if segments.getLast?.any isLooseDrive then segments else segments.dropLast

/-- Adds a segment to a path; `isLast` says that no slash follows it. -/
def addSegment (kind : SchemeKind) (segments : List (List Char)) (segment : List Char)
    (isLast : Bool) : List (List Char) :=
  if isDoubleDot segment then shorten segments ++ if isLast then [[]] else []
  else if isSingleDot segment then segments ++ if isLast then [[]] else []
  else if kind = .file ∧ segments.isEmpty ∧ isLooseDrive segment then
    [segment.take 1 ++ [':']]
  else segments ++ [segment]

/-- Whether a character does not count anywhere in a URL. -/
def isSkipped (char : Char) : Bool := char = '\t' || char = '\n' || char = '\r'

def counting (chars : List Char) : List Char := chars.filter fun char => !isSkipped char

/-- A drive letter with its colon, and what follows in the same segment after characters that do not
count. -/
def splitDrive? (segment : List Char) : Option (List Char × List Char) :=
  match segment.dropWhile isSkipped with
  | letter :: rest =>
    match rest.dropWhile isSkipped with
    | ':' :: rest =>
      if letter.isAlpha && rest.head?.any isSkipped && !(counting rest).isEmpty then
        some ([letter, ':'], counting rest)
      else none
    | _ => none
  | [] => none

/-- Adds a segment as it is written. At the front of a file path a drive letter that is parted from
what follows is a segment of its own, and the rest another one, whatever it looks like. -/
def addWritten (kind : SchemeKind) (segments : List (List Char)) (written : List Char)
    (isLast : Bool) : List (List Char) :=
  match if kind = .file ∧ segments.isEmpty then splitDrive? written else none with
  | some (drive, rest) => [drive, rest.flatMap pathChar]
  | none => addSegment kind segments ((counting written).flatMap pathChar) isLast

/-- Adds written segments to a path in order. -/
def addSegments (kind : SchemeKind) (segments : List (List Char)) :
    List (List Char) → List (List Char)
  | [] => segments
  | [last] => addWritten kind segments last true
  | written :: more => addSegments kind (addWritten kind segments written false) more

/-- The segments of the path that a text after the first slash stands for. In a file path empty
segments in front do not count. -/
def pathSegments (kind : SchemeKind) (chars : List Char) : List (List Char) :=
  let written := Text.pieces (isSlash kind) (chars.takeWhile fun char => !endsPath char)
  let segments := addSegments kind [] written
  if kind = .file then
    match segments.dropWhile List.isEmpty with
    | [] => [[]]
    | other => other
  else segments

end UmaGrant.Url
