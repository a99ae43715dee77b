import UmaGrant.GrantError
/-! # Early ends

A round of a negotiation ends early with an error, or because a lifetime leads beyond the years
that have dates. What was changed before stays changed in either case.
-/

namespace UmaGrant

/-- Why a round ends without an answer of its own. -/
inductive Halt where
  /-- There is an error to report. -/
  | refused (error : GrantError)
  /-- The end of a lifetime has no date. -/
  | beyondCalendar
deriving DecidableEq, Repr

namespace Halt

/-- The error that is to be reported, if there is one. -/
def error? : Halt → Option GrantError
  | refused error => some error
  | beyondCalendar => none

end Halt

end UmaGrant
