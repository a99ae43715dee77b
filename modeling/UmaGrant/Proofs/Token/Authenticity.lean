import Mathlib.Data.List.Induction
import UmaGrant.Proofs.Token.Rotation
/-! # Signed tokens are authentic

What the keys of a ring have signed is a record of what factories issued. Unless its signature is forged, a
text that is accepted as a token has its header and its payload from there, and they cannot be told apart in
another way than they were put together. So whatever is accepted was issued, by a factory with the same
issuer and audience. The signature itself may be another than the one that was issued.
-/

namespace UmaGrant

open KeyUse (rotations)
open SignedTokens (textFor)

/-- Whether a text is the written form of a signed text: what is signed, and a signature for it. -/
def SignedText.IsWritten (shown : SignedText) (text : String) : Prop :=
  ∃ parts, SignedTokens.Parts.ofToken? text = some parts ∧ parts.signedText = shown.text ∧
    SignedTokens.decodePart parts.signature = .ok shown.signature

/-- Whether the keys of a ring that verify a signed text have signed that text, if under another signature
maybe. -/
def KeyRing.Unforged (ring : KeyRing) (shown : SignedText) : Prop :=
  ∀ key ∈ ring.keys, ring.scheme.verifies key shown = true →
    ∃ entry ∈ key.signed, entry.text = shown.text

/-- In the ideal scheme nothing can be forged. -/
theorem KeyRing.unforged_of_ideal {ring : KeyRing} (ideal : ring.scheme = .ideal) (shown : SignedText) :
    ring.Unforged shown := by
  intro key _ verified
  rw [ideal] at verified
  exact ⟨shown, List.contains_iff_mem.mp verified, rfl⟩

/-- A token that was issued among the uses of a ring. -/
structure KeyRing.Signing (start : KeyRing) (uses : List KeyUse) where
  before : List KeyUse
  rest : List KeyUse
  tokens : SignedTokens
  now : Instant
  supply : Supply
  payload : AccessToken
  claims : TokenClaims
  split : uses = before ++ .issue tokens now supply payload :: rest
  claimed : tokens.claimsFor? now (Fresh.identifier supply.next) payload = some claims

namespace KeyRing

variable {start : KeyRing} {uses : List KeyUse}

namespace Signing

/-- The key that signed. -/
def key (signing : start.Signing uses) : SigningKey := (start.after signing.before).current

/-- What was signed. -/
def text (signing : start.Signing uses) : List UInt8 := textFor signing.key signing.claims

/-- How many keys came since. -/
def age (signing : start.Signing uses) : Nat := (rotations signing.rest).length

theorem mem (signing : start.Signing uses) :
    .issue signing.tokens signing.now signing.supply signing.payload ∈ uses := by
  obtain ⟨before, rest, tokens, now, supply, payload, claims, rfl, _⟩ := signing
  exact List.mem_append_right before List.mem_cons_self

/-- A token that was issued stays issued. -/
def weaken (signing : start.Signing uses) (use : KeyUse) : start.Signing (uses ++ [use]) :=
  { signing with
    rest := signing.rest ++ [use]
    split := (congrArg (· ++ [use]) signing.split).trans (List.append_assoc _ _ _) }

theorem age_weaken (signing : start.Signing uses) (use : KeyUse) :
    (signing.weaken use).age = signing.age + (rotations [use]).length := by
  rw [age, age, ← List.length_append, ← KeyUse.rotations_append]
  rfl

end Signing

/-- Whether a text was signed by a key of a ring, which stands at an index since. -/
def Recorded (start : KeyRing) (uses : List KeyUse) (index : Nat) (key : SigningKey)
    (text : List UInt8) : Prop :=
  ∃ signing : start.Signing uses,
    signing.age = index ∧ signing.text = text ∧ signing.key.toPublic = key.toPublic

/-- All that the keys of a ring have signed is recorded in its uses. -/
theorem recorded_after (unused : ∀ key ∈ start.keys, key.signed = []) {index : Nat} {key : SigningKey}
    (found : (start.after uses).keys[index]? = some key) {entry : SignedText}
    (member : entry ∈ key.signed) : start.Recorded uses index key entry.text := by
  induction uses using List.reverseRecOn generalizing index key with
  | nil =>
    rw [unused key (List.mem_of_getElem? found)] at member
    cases member
  | append_singleton uses use ih =>
    rw [after_append] at found
    change ((start.after uses).use use).keys[index]? = some key at found
    -- What was recorded before moves with the key that signed it.
    have moved : ∀ {place older}, (start.after uses).keys[place]? = some older → entry ∈ older.signed →
        place + (rotations [use]).length = index → older.toPublic = key.toPublic →
        start.Recorded (uses ++ [use]) index key entry.text := by
      intro place older found member shifted same
      obtain ⟨signing, rfl, text, known⟩ := ih found member
      exact ⟨signing.weaken use, (signing.age_weaken use).trans shifted, text, known.trans same⟩
    cases use with
    | redeem tokens now token => exact moved found member rfl rfl
    | rotate number =>
      cases index with
      | zero =>
        cases found
        cases member
      | succ index =>
        change ((start.after uses).keys.take (start.after uses).keep)[index]? = some key at found
        rw [List.getElem?_take, Option.ite_none_right_eq_some] at found
        exact moved found.2 member rfl rfl
    | issue tokens now supply payload =>
      rw [use_issue] at found
      cases claimed : tokens.claimsFor? now (Fresh.identifier supply.next) payload with
      | none =>
        rw [claimed] at found
        exact moved found member rfl rfl
      | some claims =>
        rw [claimed] at found
        cases index with
        | succ index => exact moved found member rfl rfl
        | zero =>
          cases found
          rcases List.mem_cons.mp member with rfl | member
          · exact ⟨⟨uses, [], tokens, now, supply, payload, claims, rfl, claimed⟩, rfl, rfl, rfl⟩
          · exact moved rfl member rfl rfl

end KeyRing

namespace SignedTokens

/-- A text that is split like a token has the payload of the token. -/
theorem payload_of_signedText {parts : Parts} {text : String} {key : SigningKey} {claims : TokenClaims}
    (taken : Parts.ofToken? text = some parts) (signed : parts.signedText = textFor key claims) :
    parts.payload = part claims.members := by
  obtain ⟨⟨left, signature⟩, _, taken⟩ := Option.bind_eq_some_iff.mp taken
  obtain ⟨⟨header, payload⟩, split, taken⟩ := Option.bind_eq_some_iff.mp taken
  cases taken
  have here := splitLastDot?_append header (of_splitLastDot? split).2
  have there := splitLastDot?_append (part (headerMembers key)) (dot_notMem_part claims.members)
  change header ++ dot :: payload = _ at signed
  rw [signed] at here
  exact congrArg Prod.snd (Option.some.inj (here.symm.trans there))

/-- Claims that pass are of the same issuer and for the same audience, and they count. -/
theorem of_checkClaims {tokens others : SignedTokens} {now later : Instant} {id : String}
    {payload : AccessToken} {claims : TokenClaims}
    (claimed : others.claimsFor? now id payload = some claims)
    (checked : tokens.checkClaims later claims = .ok ()) :
    others.issuer = tokens.issuer ∧ others.audience = tokens.audience ∧ others.Counts now later := by
  obtain ⟨expiresAt, ending, rfl⟩ := Option.map_eq_some_iff.mp claimed
  unfold checkClaims at checked
  split at checked
  · cases checked
  rename_i epoch
  split at checked
  · cases checked
  rename_i lasting
  split at checked
  · cases checked
  rename_i issuer
  split at checked
  · cases checked
  rename_i audience
  exact ⟨not_not.mp issuer, not_not.mp audience, expiresAt, ending, Int.not_lt.mp epoch,
    Int.not_lt.mp lasting⟩

/-- A text that is no valid token is refused as such, whatever is wrong with it. -/
theorem invalidToken_of_redeem {tokens : SignedTokens} {ring : KeyRing} {now : Instant} {text : String}
    {error : GrantError} (refused : tokens.redeem ring now text = .error error) :
    ∃ message, error = .invalidToken message := by
  rw [redeem] at refused
  split at refused
  · cases refused
  · cases refused
    rename_i fault _
    cases fault <;> exact ⟨_, rfl⟩

end SignedTokens

namespace TokenFactory

variable {start : KeyRing} {uses : List KeyUse}

/-- A factory of signed tokens takes a text, if that is no forgery, only for what a factory with its issuer
and its audience issued with a key that the ring still has. It refuses every other text, forged or not, as an
invalid token. What it takes need not be a token as it was issued: a scheme may accept another signature for
what was signed. -/
theorem redeemed_was_issued (unused : ∀ key ∈ start.keys, key.signed = [])
    (dated : ∀ tokens now supply payload, .issue tokens now supply payload ∈ uses → now.inRange = true)
    (tokens : SignedTokens) (later : Instant) (text : String) :
    ((∀ shown : SignedText, shown.IsWritten text → (start.after uses).Unforged shown) →
      ∀ payload, ((signed tokens (start.after uses)).redeem later text).1 = .ok payload →
        ∃ signing : start.Signing uses, signing.payload = payload ∧
          signing.tokens.issuer = tokens.issuer ∧ signing.tokens.audience = tokens.audience ∧
          signing.tokens.Counts signing.now later ∧
          (start.after uses).toPublic.keys[signing.age]? = some signing.key.toPublic) ∧
      ∀ error, ((signed tokens (start.after uses)).redeem later text).1 = .error error →
        ∃ message, error = .invalidToken message := by
  refine ⟨fun unforged payload accepted => ?_, fun error => SignedTokens.invalidToken_of_redeem⟩
  change tokens.redeem (start.after uses) later text = .ok payload at accepted
  rw [SignedTokens.redeem] at accepted
  split at accepted
  case h_2 => cases accepted
  case h_1 claims verified =>
    obtain ⟨parts, key, signature, taken, decoded, member, signed, read, checked⟩ :=
      SignedTokens.verify_eq_ok verified
    obtain ⟨index, found⟩ := List.mem_iff_getElem?.mp member
    obtain ⟨entry, recorded, text⟩ :=
      unforged ⟨parts.signedText, signature⟩ ⟨parts, taken, rfl, decoded⟩ key member signed
    obtain ⟨signing, rfl, same, known⟩ := KeyRing.recorded_after unused found recorded
    have inRange := SignedTokens.dated_of_claimsFor? (dated _ _ _ _ signing.mem) signing.claimed
    have payloads := SignedTokens.payload_of_signedText taken (text.symm.trans same.symm)
    have whole := SignedTokens.readClaims_part inRange parts.header parts.signature
    rw [← payloads, read] at whole
    cases whole
    obtain ⟨issuer, audience, counts⟩ := SignedTokens.of_checkClaims signing.claimed checked
    refine ⟨signing, ?_, issuer, audience, counts, ?_⟩
    · have claimed := signing.claimed
      obtain ⟨_, _, made⟩ := Option.map_eq_some_iff.mp claimed
      rw [← made] at accepted
      exact Except.ok.inj accepted
    · rw [KeyRing.toPublic, List.getElem?_map, found, known]
      rfl

/-! ## A token that is shown to two factories -/

open KeyRing (keepingOne solidTokens photoToken photoIssued)

/-- The ring signs a token for the photo and is rotated. -/
def photoUses : List KeyUse := [photoIssued, .rotate 1]

def otherTokens : SignedTokens := { solidTokens with audience := "https://other.example" }

theorem photoUses_issue {tokens : SignedTokens} {now : Instant} {supply : Supply}
    {payload : AccessToken} (member : .issue tokens now supply payload ∈ photoUses) :
    tokens = solidTokens ∧ now = ⟨0⟩ := by
  rcases List.mem_cons.mp member with same | member
  · cases same
    exact ⟨rfl, rfl⟩
  · cases List.mem_singleton.mp member

/-- A factory takes back what it issued, and a factory for another audience does not take it. -/
theorem redeemed_was_issued_photo :
    ∃ token factory left,
      (signed solidTokens keepingOne).issue ⟨0⟩ ⟨3⟩ photoToken = (some (token, factory), left) ∧
      (∃ signing : keepingOne.Signing photoUses, signing.payload = photoToken ∧
        (keepingOne.after photoUses).toPublic.keys[signing.age]? = some signing.key.toPublic) ∧
      ∃ message, ((signed otherTokens (keepingOne.after photoUses)).redeem
        ⟨Lifetime.minutes 10⟩ token.text).1 = .error (.invalidToken message) := by
  obtain ⟨token, factory, left, issued⟩ : ∃ token factory left,
      (signed solidTokens keepingOne).issue ⟨0⟩ ⟨3⟩ photoToken = (some (token, factory), left) :=
    ⟨_, _, _, rfl⟩
  have unused : ∀ key ∈ keepingOne.keys, key.signed = [] := by decide +kernel
  have dated : ∀ tokens now supply payload, .issue tokens now supply payload ∈ photoUses →
      now.inRange = true := by
    intro tokens now supply payload member
    rw [(photoUses_issue member).2]
    decide
  have unforged : ∀ shown : SignedText, shown.IsWritten token.text →
      (keepingOne.after photoUses).Unforged shown :=
    fun shown _ => KeyRing.unforged_of_ideal (KeyRing.after_terms _ _).scheme shown
  refine ⟨token, factory, left, issued, ?_, ?_⟩
  · have split : photoUses = [] ++ .issue solidTokens ⟨0⟩ ⟨3⟩ photoToken :: [.rotate 1] := rfl
    have counts : solidTokens.Counts ⟨0⟩ ⟨Lifetime.minutes 10⟩ :=
      SignedTokens.counts_of_unexpired rfl (by decide) (by decide)
    have accepted : ((signed solidTokens (keepingOne.after photoUses)).redeem
        ⟨Lifetime.minutes 10⟩ token.text).1 = .ok photoToken :=
      KeyRing.redeem_of_kept (KeyRing.length_keys_of_alone rfl) (by decide +kernel) split
        (by decide) issued (by decide) counts
    obtain ⟨taken, _⟩ := redeemed_was_issued unused dated solidTokens ⟨Lifetime.minutes 10⟩ token.text
    obtain ⟨signing, same, _, _, _, kept⟩ := taken unforged _ accepted
    exact ⟨signing, same, kept⟩
  · obtain ⟨taken, refused⟩ :=
      redeemed_was_issued unused dated otherTokens ⟨Lifetime.minutes 10⟩ token.text
    cases shown : ((signed otherTokens (keepingOne.after photoUses)).redeem
        ⟨Lifetime.minutes 10⟩ token.text).1 with
    | ok payload =>
      obtain ⟨signing, _, _, audience, _⟩ := taken unforged payload shown
      rw [(photoUses_issue signing.mem).1] at audience
      exact absurd audience (by decide)
    | error error =>
      obtain ⟨message, rfl⟩ := refused error shown
      exact ⟨message, rfl⟩

end TokenFactory

end UmaGrant
