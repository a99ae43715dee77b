/-! # Texts between separators

A text falls into pieces at its separators, which belong to no piece.
-/

namespace UmaGrant.Text

/-- The pieces of a text between separators; there is always one more than separators. -/
def pieces (isSeparator : Char → Bool) (chars : List Char) : List (List Char) :=
  chars.foldr
    (fun char found =>
      if isSeparator char then [] :: found
      else
        match found with
        | piece :: more => (char :: piece) :: more
        | [] => [[char]])
    [[]]

end UmaGrant.Text
