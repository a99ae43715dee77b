import UmaGrant.Proofs.Dict
import UmaGrant.Verifier
/-! # What token factories go on saying

A token factory changes when it issues a token, and when it drops one that has expired. About texts
that are none of its new tokens, and that are not tokens which have expired, it goes on saying the
same. So does every verifier that asks token factories.
-/

namespace UmaGrant

variable {concerns : String → Prop} {now : Instant} {text : String}

namespace SignedTokens

variable {tokens : SignedTokens} {ring : KeyRing} {number : Nat} {claims : TokenClaims}

/-- The text that a key signs for claims. -/
def textFor (key : SigningKey) (claims : TokenClaims) : List UInt8 :=
  part (headerMembers key) ++ dot :: part claims.members

private theorem verifies_sign_other (scheme : SignatureScheme) (key : SigningKey)
    {signed other signature : List UInt8} (differ : other ≠ signed) :
    scheme.verifies (key.sign scheme number signed).2 ⟨other, signature⟩ =
      scheme.verifies key ⟨other, signature⟩ :=
  scheme.verifies_other key _ _ differ

/-- A key that has signed one more text says the same about others. -/
theorem verify_sign (ring : KeyRing) (number : Nat) (claims : TokenClaims)
    (other : ∀ parts, Parts.ofToken? text = some parts →
      parts.signedText ≠ textFor ring.current claims) :
    tokens.verify (sign ring number claims).2 now text = tokens.verify ring now text := by
  unfold verify
  cases split : Parts.ofToken? text with
  | none => rfl
  | some parts =>
    have differ := other parts split
    dsimp only
    refine bind_congr fun header => ?_
    cases header.keyId with
    | none => rfl
    | some id =>
      have after : (sign ring number claims).2.keys =
          (ring.current.sign ring.scheme number (textFor ring.current claims)).2 :: ring.previous := rfl
      have before : ring.keys = ring.current :: ring.previous := rfl
      have scheme : (sign ring number claims).2.scheme = ring.scheme := rfl
      dsimp only
      rw [KeyRing.find?, KeyRing.find?, after, before, List.find?_cons, List.find?_cons]
      by_cases current : ring.current.id = id
      · have signs : (ring.current.sign ring.scheme number (textFor ring.current claims)).2.id = id :=
          current
        simp only [signs, current, decide_true, scheme,
          verifies_sign_other ring.scheme ring.current differ]
        rfl
      · have signs : (ring.current.sign ring.scheme number (textFor ring.current claims)).2.id ≠ id :=
          current
        simp only [signs, current, decide_false, scheme]

end SignedTokens

/-- Whether a text is none of the access tokens that are made from the numbers of a supply. -/
structure Supply.Unmade (supply : Supply) (text : String) : Prop where
  credential : ∀ number, supply.next ≤ number → text ≠ Fresh.credential number
  signed : ∀ parts, SignedTokens.Parts.ofToken? text = some parts →
    ∀ number, supply.next ≤ number → ∀ (tokens : SignedTokens) key now payload claims,
      tokens.claimsFor? now (Fresh.identifier number) payload = some claims →
      parts.signedText ≠ SignedTokens.textFor key claims

namespace TokenFactory

/-- Whether two factories say the same about some texts, and issue tokens under the same terms. -/
inductive Agrees (concerns : String → Prop) : TokenFactory → TokenFactory → Prop
  | reference {first second : ReferenceTokens} (lifetime : second.lifetime = first.lifetime)
      (entries : ∀ text, concerns text → second.entries.get? text = first.entries.get? text) :
      Agrees concerns (.reference first) (.reference second)
  | signed {tokens : SignedTokens} {first second : KeyRing}
      (redeems : ∀ text, concerns text → ∀ now,
        tokens.redeem second now text = tokens.redeem first now text) :
      Agrees concerns (.signed tokens first) (.signed tokens second)

theorem Agrees.refl (concerns : String → Prop) : (factory : TokenFactory) →
    Agrees concerns factory factory
  | .reference _ => .reference rfl fun _ _ => rfl
  | .signed _ _ => .signed fun _ _ _ => rfl

/-- Whether a factory has no token among some texts that is expired at an instant. -/
def NoneExpired (concerns : String → Prop) (now : Instant) : TokenFactory → Prop
  | .reference table => ∀ text, concerns text → ∀ stored, table.entries.get? text = some stored →
      ReferenceTokens.isLive now stored = true
  | .signed _ _ => True

private theorem redeem_reference (table : ReferenceTokens) (now : Instant) (text : String) :
    (reference table).redeem now text =
      ((table.redeem now text).1, reference (table.redeem now text).2) := rfl

private theorem issue_reference (table : ReferenceTokens) (now : Instant) (supply : Supply)
    (payload : AccessToken) :
    (reference table).issue now supply payload =
      ((table.issue? now supply.next payload).map fun issued => (issued.1, reference issued.2),
        ⟨supply.next + 1⟩) := rfl

private theorem issue_signed (tokens : SignedTokens) (ring : KeyRing) (now : Instant)
    (supply : Supply) (payload : AccessToken) :
    (signed tokens ring).issue now supply payload =
      ((tokens.issue? ring now supply.next (supply.next + 1) payload).map fun issued =>
        (issued.1, signed tokens issued.2), ⟨supply.next + 1 + 1⟩) := rfl

theorem Agrees.redeem {first second : TokenFactory} (agrees : Agrees concerns first second)
    (concerned : concerns text) : (second.redeem now text).1 = (first.redeem now text).1 := by
  cases agrees with
  | signed redeems => exact redeems text concerned now
  | reference _ entries =>
    rw [redeem_reference, redeem_reference, ReferenceTokens.redeem, ReferenceTokens.redeem,
      entries text concerned]
    split
    · rfl
    · split <;> rfl

/-- Redeeming drops a token at most if that has expired. -/
theorem Agrees.after_redeem {first second : TokenFactory} (agrees : Agrees concerns first second)
    (good : first.NoneExpired concerns now ∨ ∃ payload, (second.redeem now text).1 = .ok payload) :
    Agrees concerns first (second.redeem now text).2 := by
  cases agrees with
  | signed redeems => exact .signed redeems
  | @reference old table lifetime entries =>
    rw [redeem_reference, ReferenceTokens.redeem] at good ⊢
    cases found : table.entries.get? text with
    | none => exact .reference lifetime entries
    | some stored =>
      rw [found] at good
      dsimp only at good ⊢
      by_cases lasts : ReferenceTokens.isLive now stored = true
      · rw [if_pos lasts]
        exact .reference lifetime entries
      · rw [if_neg lasts] at good ⊢
        refine .reference lifetime fun other concerned => ?_
        rcases good with live | ⟨payload, redeemed⟩
        · have differ : other ≠ text := by
            rintro rfl
            exact lasts (live other concerned stored (entries other concerned ▸ found))
          exact (Dict.get?_erase_other _ differ).trans (entries other concerned)
        · cases redeemed

/-- What a factory issues from fresh numbers does not concern other texts. -/
theorem Agrees.issue {first second left : TokenFactory} {start supply after : Supply}
    {payload : AccessToken} {token : IssuedToken}
    (agrees : Agrees concerns first second) (unmade : ∀ text, concerns text → start.Unmade text)
    (fresh : start.next ≤ supply.next)
    (issued : second.issue now supply payload = (some (token, left), after)) :
    Agrees concerns first left := by
  cases agrees with
  | @reference old table lifetime entries =>
    rw [issue_reference, ReferenceTokens.issue?] at issued
    obtain ⟨⟨_, grown⟩, made, same⟩ := Option.map_eq_some_iff.mp (Prod.mk.inj issued).1
    obtain ⟨expiresAt, _, given⟩ := Option.map_eq_some_iff.mp made
    obtain rfl := (Prod.mk.inj same).2
    obtain rfl := (Prod.mk.inj given).2
    refine .reference lifetime fun text concerned => ?_
    have differ := (unmade text concerned).credential supply.next fresh
    exact (Dict.get?_insert_other _ differ _).trans (entries text concerned)
  | @signed tokens old ring redeems =>
    rw [issue_signed, SignedTokens.issue?] at issued
    obtain ⟨⟨_, grown⟩, made, same⟩ := Option.map_eq_some_iff.mp (Prod.mk.inj issued).1
    obtain ⟨claims, claimed, given⟩ := Option.map_eq_some_iff.mp made
    obtain rfl := (Prod.mk.inj same).2
    have ring' : grown = (SignedTokens.sign ring (supply.next + 1) claims).2 :=
      congrArg Prod.snd given.symm
    refine .signed fun text concerned instant => ?_
    rw [← redeems text concerned instant, SignedTokens.redeem, ring', SignedTokens.verify_sign]
    · rfl
    · exact fun parts split => (unmade text concerned).signed parts split supply.next fresh tokens
        ring.current now payload claims claimed

/-- Whether a token is issued does not depend on the numbers, nor on what it says. -/
theorem Agrees.issues {first second : TokenFactory} (agrees : Agrees concerns first second)
    (supply other : Supply) (payload another : AccessToken) :
    (second.issue now supply payload).1.map (·.1.type) =
      (first.issue now other another).1.map (·.1.type) := by
  cases agrees with
  | reference lifetime =>
    rw [issue_reference, issue_reference, ReferenceTokens.issue?, ReferenceTokens.issue?, lifetime]
    simp only [Option.map_map]
    rfl
  | @signed tokens =>
    rw [issue_signed, issue_signed, SignedTokens.issue?, SignedTokens.issue?,
      SignedTokens.claimsFor?, SignedTokens.claimsFor?]
    simp only [Option.map_map]
    rfl

end TokenFactory

namespace TokenFactories

variable {first second left : TokenFactories} {name : String}

/-- Whether the factories of one name always agree about some texts. -/
def Agree (concerns : String → Prop) (first second : TokenFactories) : Prop :=
  ∀ name, Option.Rel (TokenFactory.Agrees concerns) (first.get? name) (second.get? name)

/-- Whether no factory has a token among some texts that is expired at an instant. -/
def NoneExpired (concerns : String → Prop) (now : Instant) (factories : TokenFactories) : Prop :=
  ∀ name factory, factories.get? name = some factory → factory.NoneExpired concerns now

/-- Among no texts nothing is expired. -/
theorem noneExpired_none (now : Instant) (factories : TokenFactories) :
    factories.NoneExpired (fun _ => False) now := by
  intro name factory _
  cases factory with
  | reference table => exact fun _ none => none.elim
  | signed tokens ring => trivial

theorem Agree.refl (concerns : String → Prop) (factories : TokenFactories) :
    Agree concerns factories factories := by
  intro name
  cases factories.get? name with
  | none => exact .none
  | some factory => exact .some (.refl concerns factory)

/-- One factory may be put in place of another that agrees with it. -/
private theorem Agree.insert (agree : Agree concerns first second) {factory new : TokenFactory}
    (found : first.get? name = some factory) (agrees : factory.Agrees concerns new) :
    Agree concerns first (Dict.insert second name new) := by
  intro other
  rw [Dict.get?_insert]
  split
  case isTrue same =>
    rw [same, found]
    exact .some agrees
  case isFalse => exact agree other

theorem Agree.redeem (agree : Agree concerns first second) (concerned : concerns text) :
    (second.redeem name now text).1 = (first.redeem name now text).1 := by
  have related := agree name
  unfold TokenFactories.redeem
  cases known : first.get? name <;> cases found : second.get? name <;> rw [known, found] at related
  case some.some =>
    obtain ⟨agrees⟩ := related
    exact agrees.redeem concerned
  all_goals cases related

theorem Agree.after_redeem (agree : Agree concerns first second)
    (good : first.NoneExpired concerns now ∨
      ∃ payload, (second.redeem name now text).1 = .ok payload) :
    Agree concerns first (second.redeem name now text).2 := by
  have related := agree name
  unfold TokenFactories.redeem at good ⊢
  cases known : first.get? name <;> cases found : second.get? name <;> rw [known, found] at related
  case none.none => exact agree
  case some.some old factory =>
    obtain ⟨agrees⟩ := related
    rw [found] at good
    exact agree.insert known (agrees.after_redeem (good.imp_left fun live => live name old known))
  all_goals cases related

/-- Issuing tokens from fresh numbers does not concern other texts. -/
theorem Agree.issue {start supply after : Supply} {payload : AccessToken}
    {issued : Except Halt IssuedToken} (agree : Agree concerns first second)
    (unmade : ∀ text, concerns text → start.Unmade text) (fresh : start.next ≤ supply.next)
    (issuing : second.issue name now supply payload = (issued, left, after)) :
    Agree concerns first left := by
  have related := agree name
  unfold TokenFactories.issue at issuing
  cases known : first.get? name <;> cases found : second.get? name <;>
    rw [known, found] at related <;> rw [found] at issuing
  case none.none =>
    cases issuing
    exact agree
  case some.some old factory =>
    obtain ⟨agrees⟩ := related
    dsimp only at issuing
    generalize making : factory.issue now supply payload = made at issuing
    obtain ⟨_ | ⟨token, grown⟩, used⟩ := made
    · cases issuing
      exact agree
    · cases issuing
      exact agree.insert known (agrees.issue unmade fresh making)
  all_goals cases related

/-- Whether a token is issued does not depend on the numbers, nor on what it says. -/
theorem Agree.issues (agree : Agree concerns first second) (supply other : Supply)
    (payload another : AccessToken) :
    (second.issue name now supply payload).1.map (·.type) =
      (first.issue name now other another).1.map (·.type) := by
  have related := agree name
  unfold TokenFactories.issue
  cases known : first.get? name <;> cases found : second.get? name <;> rw [known, found] at related
  case some.some old factory =>
    obtain ⟨agrees⟩ := related
    have same : (factory.issue now supply payload).1.map (·.1.type) =
        (old.issue now other another).1.map (·.1.type) :=
      agrees.issues supply other payload another
    dsimp only
    generalize factory.issue now supply payload = made at same ⊢
    generalize old.issue now other another = before at same ⊢
    obtain ⟨_ | ⟨token, grown⟩, used⟩ := made <;> obtain ⟨_ | ⟨old, kept⟩, spent⟩ := before
    · rfl
    · cases same
    · cases same
    · exact congrArg Except.ok (Option.some.inj same)
  all_goals cases related

end TokenFactories

namespace Verifier

variable {first second : TokenFactories} {token : ClaimToken}

mutual

/-- A verifier goes on saying the same about a token as long as the factories do. These go on doing so
if none of their tokens has expired, and in any case if the token proves something. -/
theorem verify_agrees (agree : first.Agree concerns second) : (verifier : Verifier) →
    (concerns token.token →
        (verify now token second verifier).1 = (verify now token first verifier).1) ∧
      (first.NoneExpired concerns now ∨ (∃ claims, (verify now token second verifier).1 = .ok claims) →
        first.Agree concerns (verify now token second verifier).2)
  | trusting => by
    unfold verify
    exact ⟨fun _ => rfl, fun _ => agree⟩
  | byFormat routes => by
    have related := verifyRouted_agrees agree routes
    unfold verify
    cases known : verifyRouted now token first routes <;>
      cases found : verifyRouted now token second routes <;> rw [known, found] at related
    case none.none => exact ⟨fun _ => rfl, fun _ => agree⟩
    case some.some =>
      obtain ⟨same⟩ := related
      exact same
    all_goals cases related
  | accessTokens factory => by
    unfold verify
    refine ⟨fun concerned => congrArg accessClaims (agree.redeem concerned), fun good => ?_⟩
    refine agree.after_redeem (good.imp_right fun ⟨claims, proven⟩ => ?_)
    dsimp only at proven
    cases redeemed : (second.redeem factory now token.token).1 with
    | ok payload => exact ⟨payload, rfl⟩
    | error error =>
      rw [redeemed] at proven
      cases error <;> cases proven
  | known tokens unknown => by
    unfold verify
    exact ⟨fun _ => rfl, fun _ => agree⟩

private theorem verifyRouted_agrees (agree : first.Agree concerns second) :
    (routes : List (String × Verifier)) →
    Option.Rel
      (fun before after => (concerns token.token → after.1 = before.1) ∧
        (first.NoneExpired concerns now ∨ (∃ claims, after.1 = .ok claims) →
          first.Agree concerns after.2))
      (verifyRouted now token first routes) (verifyRouted now token second routes)
  | [] => by
    unfold verifyRouted
    exact .none
  | (format, verifier) :: rest => by
    unfold verifyRouted
    by_cases same : format = token.format
    · rw [if_pos same, if_pos same]
      exact .some (verify_agrees agree verifier)
    · rw [if_neg same, if_neg same]
      exact verifyRouted_agrees agree rest

end

end Verifier

end UmaGrant
