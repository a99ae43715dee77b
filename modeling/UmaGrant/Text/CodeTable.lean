import UmaGrant.Text.Hex
import UmaGrant.Text.Pieces
/-! # Tables of characters

What a standard says of characters is kept as ranges of their codes in ascending order. A table is
written as entries in hexadecimal between blanks: `AD` is a single code, `41-5A` a range, and
`C6=61+65` says that two codes belong to `C6`. Another mark may stand for the equals sign.
-/

namespace UmaGrant.Text

/-- A range of codes, both ends included, and the codes that belong to it. -/
structure CodeRange where
  first : Nat
  last : Nat
  /-- What stands between the range and its codes, if it has any. -/
  mark : Option Char
  codes : List Nat
deriving DecidableEq, Repr

/-- Ranges in ascending order. -/
abbrev CodeTable := Array CodeRange

def CodeRange.code (digits : List Char) : Nat := (Hex.toNat? digits).getD 0

def CodeRange.ofEntry (entry : List Char) : CodeRange :=
  let bounds := entry.takeWhile fun char => char = '-' || (Hex.digit? char).isSome
  let rest := entry.drop bounds.length
  let codes := ((pieces (· = '+') (rest.drop 1)).filter fun piece => !piece.isEmpty).map code
  match (pieces (· = '-') bounds).map code with
  | [first, last] => ⟨first, last, rest.head?, codes⟩
  | other => ⟨other.headD 0, other.headD 0, rest.head?, codes⟩

namespace CodeTable

def ofText (text : String) : CodeTable :=
  let entries := pieces (fun char => char = ' ' || char = '\n') text.toList
  ((entries.filter fun entry => !entry.isEmpty).map CodeRange.ofEntry).toArray

/-- The range that holds a code, among `count` ranges from index `first` on, by halving. -/
def search (table : CodeTable) (code first count : Nat) : Option CodeRange :=
  if _none : count = 0 then none
  else
    let half := count / 2
    match table[first + half]? with
    | none => none
    | some range =>
      if code < range.first then search table code first half
      else if range.last < code then search table code (first + half + 1) (count - half - 1)
      else some range
termination_by count
decreasing_by all_goals omega

def find? (table : CodeTable) (char : Char) : Option CodeRange :=
  search table char.toNat 0 table.size

def contains (table : CodeTable) (char : Char) : Bool := (table.find? char).isSome

end CodeTable

end UmaGrant.Text
