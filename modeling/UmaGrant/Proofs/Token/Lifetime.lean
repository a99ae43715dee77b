import Mathlib.Logic.Relation
import UmaGrant.Token.Factory
/-! # How long the tokens of a factory last

A factory is told once how long its tokens last, and nothing that is done with it changes that. So whether
it can issue a token depends on the clock alone: not on the tokens it has issued, nor on its keys.
-/

namespace UmaGrant.TokenFactory

/-- How long the tokens of a factory last. -/
def lifetime : TokenFactory → Lifetime
  | reference table => table.lifetime
  | signed tokens _ => tokens.lifetime

/-- What can be done with a factory. Where no token is issued, the factory is as before. -/
inductive Step : TokenFactory → TokenFactory → Prop where
  | issue {factory next : TokenFactory} {now : Instant} {supply left : Supply} {payload : AccessToken}
      {token : IssuedToken} (issued : factory.issue now supply payload = (some (token, next), left)) :
      Step factory next
  | redeem (factory : TokenFactory) (now : Instant) (token : String) :
      Step factory (factory.redeem now token).2
  | sweep (table : ReferenceTokens) (now : Instant) :
      Step (reference table) (reference (table.sweep now).2)
  | rotate (tokens : SignedTokens) (ring : KeyRing) (number : Nat) :
      Step (signed tokens ring) (signed tokens (ring.rotate number))

/-- What a factory can be once it was used. -/
abbrev Steps : TokenFactory → TokenFactory → Prop := Relation.ReflTransGen Step

variable {factory next : TokenFactory}

theorem lifetime_of_issue {now : Instant} {supply left : Supply} {payload : AccessToken}
    {token : IssuedToken} (issued : factory.issue now supply payload = (some (token, next), left)) :
    next.lifetime = factory.lifetime := by
  have made := congrArg Prod.fst issued
  cases factory with
  | reference table =>
    obtain ⟨⟨_, grown⟩, issues, same⟩ := Option.map_eq_some_iff.mp made
    obtain ⟨_, _, entered⟩ := Option.map_eq_some_iff.mp issues
    cases entered
    cases same
    rfl
  | signed tokens ring =>
    obtain ⟨_, _, same⟩ := Option.map_eq_some_iff.mp made
    cases same
    rfl

theorem lifetime_redeem (factory : TokenFactory) (now : Instant) (token : String) :
    (factory.redeem now token).2.lifetime = factory.lifetime := by
  cases factory with
  | reference table =>
    change (table.redeem now token).2.lifetime = table.lifetime
    unfold ReferenceTokens.redeem
    split
    · rfl
    · split <;> rfl
  | signed tokens ring => rfl

theorem Step.lifetime (step : Step factory next) : next.lifetime = factory.lifetime := by
  cases step with
  | issue issued => exact lifetime_of_issue issued
  | redeem factory now token => exact lifetime_redeem factory now token
  | sweep table now => rfl
  | rotate tokens ring number => rfl

theorem Steps.lifetime (steps : Steps factory next) : next.lifetime = factory.lifetime := by
  induction steps with
  | refl => rfl
  | tail _ step ih => exact step.lifetime.trans ih

/-- A token is issued exactly where its expiry has a date. -/
theorem isSome_issue (factory : TokenFactory) (now : Instant) (supply : Supply) (payload : AccessToken) :
    (factory.issue now supply payload).1.isSome = (now.after? factory.lifetime).isSome := by
  cases factory with
  | reference table =>
    exact Option.isSome_map.trans Option.isSome_map
  | signed tokens ring =>
    exact Option.isSome_map.trans (Option.isSome_map.trans Option.isSome_map)

end UmaGrant.TokenFactory
