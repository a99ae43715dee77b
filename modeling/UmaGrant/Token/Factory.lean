import UmaGrant.Halt
import UmaGrant.Token.Reference
import UmaGrant.Token.Signed
/-! # Token factories

A factory issues access tokens and knows its own again. It makes reference tokens or signed ones.
-/

namespace UmaGrant

/-- A factory, with all that it has to remember. -/
inductive TokenFactory where
  | reference (table : ReferenceTokens)
  | signed (tokens : SignedTokens) (ring : KeyRing)

namespace TokenFactory

/-- Issues a token from a supply of fresh values. Where the date of the token's expiry cannot be
represented there is no token, and the factory is as before. -/
def issue (factory : TokenFactory) (now : Instant) (supply : Supply) (payload : AccessToken) :
    Option (IssuedToken × TokenFactory) × Supply :=
  match factory with
  | reference table =>
    let (number, supply) := supply.draw
    ((table.issue? now number payload).map fun issued => (issued.1, reference issued.2), supply)
  | signed tokens ring =>
    let (idNumber, supply) := supply.draw
    let (number, supply) := supply.draw
    ((tokens.issue? ring now idNumber number payload).map fun issued =>
      (issued.1, signed tokens issued.2), supply)

def redeem (factory : TokenFactory) (now : Instant) (token : String) :
    Except GrantError AccessToken × TokenFactory :=
  match factory with
  | reference table =>
    let (payload, table) := table.redeem now token
    (payload, reference table)
  | signed tokens ring => (tokens.redeem ring now token, factory)

end TokenFactory

abbrev TokenFactories := Dict TokenFactory

namespace TokenFactories

/-- What a token of a factory stands for. A factory that is not there knows no token. -/
def redeem (factories : TokenFactories) (name : String) (now : Instant) (token : String) :
    Except GrantError AccessToken × TokenFactories :=
  match factories.get? name with
  | none => (.error (.invalidToken "Unknown access token"), factories)
  | some factory =>
    let (payload, factory) := factory.redeem now token
    (payload, factories.insert name factory)

def issue (factories : TokenFactories) (name : String) (now : Instant) (supply : Supply)
    (payload : AccessToken) : Except Halt IssuedToken × TokenFactories × Supply :=
  match factories.get? name with
  | none => (.error (.refused (.internal "Unknown token factory")), factories, supply)
  | some factory =>
    let (issued, supply) := factory.issue now supply payload
    match issued with
    | none => (.error .beyondCalendar, factories, supply)
    | some (token, factory) => (.ok token, factories.insert name factory, supply)

end TokenFactories

end UmaGrant
