import UmaGrant.Proofs.Token.Authenticity
import UmaGrant.Proofs.Token.TableUse
/-! # How long tokens last

Reference tokens and signed tokens get their expiry in the same way. The table of the former compares it
with the clock; for the latter a minute of leeway is added, and an expiry before 1970 is taken for none.
So two factories with one lifetime do not agree about a token in the minute after its expiry.
-/

namespace UmaGrant

open KeyUse (rotations)

namespace Instant

/-- The start of a second. -/
def atSecond (count : Int) : Instant := ⟨Lifetime.seconds count⟩

@[simp] theorem unixSeconds_atSecond (count : Int) : (atSecond count).unixSeconds = count :=
  Int.mul_ediv_cancel count (by decide)

theorem nanos_atSecond_lt_iff {first second : Int} :
    (atSecond first).nanos < (atSecond second).nanos ↔ first < second := by
  change first * 1000000000 < second * 1000000000 ↔ first < second
  omega

theorem after?_atSecond {start span : Int} (ending : (atSecond (start + span)).inRange = true) :
    (atSecond start).after? (Lifetime.seconds span) = some (atSecond (start + span)) := by
  have sum : (⟨(atSecond start).nanos + Lifetime.seconds span⟩ : Instant) =
      atSecond (start + span) :=
    congrArg Instant.mk (Int.add_mul start span 1000000000).symm
  rw [after?, sum, if_pos ending]

end Instant

/-- In whole seconds, a signed token counts for a minute longer than it lasts, if it ends after the start
of 1970. -/
theorem SignedTokens.counts_atSecond_iff {tokens : SignedTokens} {issued span later : Int}
    (same : tokens.lifetime = Lifetime.seconds span)
    (ending : (Instant.atSecond (issued + span)).inRange = true) :
    tokens.Counts (.atSecond issued) (.atSecond later) ↔
      0 ≤ issued + span ∧ later ≤ issued + span + leeway := by
  have expiry := Instant.after?_atSecond ending
  rw [← same] at expiry
  constructor
  · rintro ⟨expiresAt, present, epoch, lasting⟩
    rw [expiry] at present
    cases present
    rw [Instant.unixSeconds_atSecond] at epoch lasting
    rw [Instant.unixSeconds_atSecond] at lasting
    exact ⟨epoch, by omega⟩
  · rintro ⟨epoch, lasting⟩
    refine ⟨_, expiry, ?_, ?_⟩
    · rwa [Instant.unixSeconds_atSecond]
    · rw [Instant.unixSeconds_atSecond, Instant.unixSeconds_atSecond]
      omega

/-- A token is issued wherever its expiry has a date, signed by the current key. -/
theorem SignedTokens.issue_eq_map (tokens : SignedTokens) (ring : KeyRing) (now : Instant)
    (supply : Supply) (payload : AccessToken) :
    (TokenFactory.signed tokens ring).issue now supply payload =
      ((now.after? tokens.lifetime).map fun expiresAt =>
        let signed := sign ring (supply.next + 1)
          ⟨tokens.issuer, tokens.audience, expiresAt.unixSeconds, now.unixSeconds,
            Fresh.identifier supply.next, payload.permissions, payload.contract⟩
        (signed.1, .signed tokens signed.2),
        ⟨supply.next + 1 + 1⟩) := by
  change ((tokens.issue? ring now supply.next (supply.next + 1) payload).map _, _) = _
  rw [issue?, claimsFor?, Option.map_map, Option.map_map]
  rfl

/-- A factory that has issued a signed token has the ring as that was used. -/
theorem KeyRing.after_of_issue {ring : KeyRing} {tokens : SignedTokens} {now : Instant}
    {supply left : Supply} {payload : AccessToken} {token : IssuedToken} {factory : TokenFactory}
    (issued : (TokenFactory.signed tokens ring).issue now supply payload =
      (some (token, factory), left)) :
    factory = .signed tokens (ring.after [.issue tokens now supply payload]) := by
  obtain ⟨claims, claimed, _, same⟩ := TokenFactory.of_issue_signed issued
  rw [same, after, List.foldl_cons, List.foldl_nil, use_issue, claimed]

/-- While its key is kept, a signed token is worth its payload exactly as long as it counts. -/
theorem KeyRing.honoured_of_kept {start : KeyRing} {uses before rest : List KeyUse}
    {tokens : SignedTokens} {now : Instant} {supply left : Supply} {payload : AccessToken}
    {token : IssuedToken} {factory : TokenFactory} (small : start.keys.length ≤ start.keep + 1)
    (distinct : ((start.publicHistory uses).map (·.id)).Nodup)
    (split : uses = before ++ .issue tokens now supply payload :: rest) (dated : now.inRange = true)
    (issued : (TokenFactory.signed tokens (start.after before)).issue now supply payload =
      (some (token, factory), left))
    (kept : (rotations rest).length ≤ start.keep) (later : Instant) :
    HonouredIf (tokens.Counts now later) payload
      ((TokenFactory.signed tokens (start.after uses)).redeem later token.text).1 := by
  refine ⟨redeem_of_kept small distinct split dated issued kept, fun late => ?_⟩
  obtain ⟨claims, claimed, redeemed⟩ := redeem_eq_of_kept small distinct split dated issued kept later
  cases checked : tokens.checkClaims later claims with
  | ok _ => exact absurd (SignedTokens.of_checkClaims claimed checked).2.2 late
  | error fault =>
    rw [checked] at redeemed
    obtain ⟨message, invalid⟩ := SignedTokens.invalidToken_of_redeem redeemed
    exact ⟨message, redeemed.trans (congrArg Except.error invalid)⟩

namespace TokenFactory

/-- A factory of reference tokens and one of signed tokens have the same lifetime in whole seconds, and
issue a token wherever its expiry has a date. The reference token is worth its payload before its expiry
and is not valid from then on, whatever else is done with the table. The signed token is worth its payload
up to a minute after its expiry and is not valid any more then, as long as its key is kept; and if it
expires before the start of 1970, it is never valid. -/
theorem honoured_atSecond {tokens : SignedTokens} {issued span : Int}
    (same : tokens.lifetime = Lifetime.seconds span)
    (dated : (Instant.atSecond issued).inRange = true)
    (ending : (Instant.atSecond (issued + span)).inRange = true)
    (supply : Supply) (payload : AccessToken) :
    (∀ before, ∃ token factory left,
      (reference ((ReferenceTokens.empty (Lifetime.seconds span)).after before)).issue
          (.atSecond issued) supply payload = (some (token, factory), left) ∧
        ∀ rest later, (∀ use ∈ rest, use.number? ≠ some supply.next) →
          (∀ use ∈ rest, use.now.nanos ≤ (Instant.atSecond later).nanos) →
          HonouredIf (later < issued + span) payload
            ((reference ((ReferenceTokens.empty (Lifetime.seconds span)).after
                (before ++ .issue (.atSecond issued) supply payload :: rest))).redeem
              (.atSecond later) token.text).1) ∧
    ∀ start : KeyRing, start.previous = [] → ∀ before, ∃ token factory left,
      (signed tokens (start.after before)).issue (.atSecond issued) supply payload =
          (some (token, factory), left) ∧
        ∀ rest later,
          ((start.publicHistory
              (before ++ .issue tokens (.atSecond issued) supply payload :: rest)).map (·.id)).Nodup →
          (rotations rest).length ≤ start.keep →
          HonouredIf (0 ≤ issued + span ∧ later ≤ issued + span + SignedTokens.leeway) payload
            ((signed tokens (start.after
                (before ++ .issue tokens (.atSecond issued) supply payload :: rest))).redeem
              (.atSecond later) token.text).1 := by
  have expiry := Instant.after?_atSecond ending
  refine ⟨fun before => ?_, fun start alone before => ?_⟩
  · have lasting : ((ReferenceTokens.empty (Lifetime.seconds span)).after before).lifetime =
        Lifetime.seconds span := ReferenceTokens.after_lifetime _ _
    refine ⟨_, _, _, by rw [ReferenceTokens.issue_eq_map, lasting, expiry]; rfl, ?_⟩
    intro rest later others past
    have ordered : ((ReferenceTokens.empty (Lifetime.seconds span)).after before).entries.Ordered :=
      ReferenceTokens.ordered_after Dict.ordered_empty before
    rw [ReferenceTokens.after_append]
    exact (ReferenceTokens.honoured_after ordered (by rw [lasting, expiry]) others past).congr
      Instant.nanos_atSecond_lt_iff
  · obtain ⟨token, factory, left, issues⟩ : ∃ token factory left,
        (signed tokens (start.after before)).issue (.atSecond issued) supply payload =
          (some (token, factory), left) :=
      ⟨_, _, _, by rw [SignedTokens.issue_eq_map, same, expiry]; rfl⟩
    refine ⟨token, factory, left, issues, fun rest later distinct kept => ?_⟩
    exact (KeyRing.honoured_of_kept (KeyRing.length_keys_of_alone alone) distinct rfl dated issues kept
      (.atSecond later)).congr (SignedTokens.counts_atSecond_iff same ending)

open KeyRing (keepingOne solidTokens photoToken)

/-- Tokens for half an hour, at the end of that time. Before, the table was swept and the ring rotated. -/
theorem honoured_atSecond_photo :
    ∃ first table left second ring rest,
      (reference (.empty ReferenceTokens.defaultLifetime)).issue (.atSecond 0) ⟨3⟩ photoToken =
          (some (first, table), left) ∧
        (signed solidTokens keepingOne).issue (.atSecond 0) ⟨3⟩ photoToken =
          (some (second, ring), rest) ∧
        (∃ message, ((reference ((ReferenceTokens.empty ReferenceTokens.defaultLifetime).after
            [.issue (.atSecond 0) ⟨3⟩ photoToken, .sweep (.atSecond 600)])).redeem
              (.atSecond 1800) first.text).1 = .error (.invalidToken message)) ∧
        ((signed solidTokens (keepingOne.after
            [.issue solidTokens (.atSecond 0) ⟨3⟩ photoToken, .rotate 1])).redeem
              (.atSecond 1800) second.text).1 = .ok photoToken := by
  obtain ⟨references, signatures⟩ := @honoured_atSecond solidTokens 0 1800 rfl (by decide) (by decide)
    ⟨3⟩ photoToken
  obtain ⟨first, table, left, issued, ofReference⟩ := references []
  obtain ⟨second, ring, rest, signed, ofSigned⟩ := signatures keepingOne rfl []
  refine ⟨first, table, left, second, ring, rest, issued, signed, ?_, ?_⟩
  · refine (ofReference [.sweep (.atSecond 600)] 1800 ?_ ?_).refused (by decide)
    · exact List.forall_mem_singleton.mpr nofun
    · exact List.forall_mem_singleton.mpr (by decide)
  · exact (ofSigned [.rotate 1] 1800 (by decide +kernel) (by decide)).accepted (by decide)

/-- Tokens that expire half a minute before they are issued. -/
def spentTokens : SignedTokens := { solidTokens with lifetime := Lifetime.seconds (-30) }

/-- A token that had expired when it was issued is accepted if it is a signed one. -/
theorem spent_honoured :
    ∃ first table left second ring rest,
      (reference (.empty spentTokens.lifetime)).issue (.atSecond 100) ⟨3⟩ photoToken =
          (some (first, table), left) ∧
        (signed spentTokens keepingOne).issue (.atSecond 100) ⟨3⟩ photoToken =
          (some (second, ring), rest) ∧
        (table.redeem (.atSecond 100) first.text).1 =
          .error (.invalidToken "Access token expired") ∧
        (ring.redeem (.atSecond 100) second.text).1 = .ok photoToken := by
  obtain ⟨second, ring, rest, issued⟩ : ∃ second ring rest,
      (signed spentTokens keepingOne).issue (.atSecond 100) ⟨3⟩ photoToken =
        (some (second, ring), rest) := ⟨_, _, _, rfl⟩
  have counts : spentTokens.Counts (.atSecond 100) (.atSecond 100) :=
    ⟨.atSecond 70, rfl, by decide, by decide⟩
  have split : [.issue spentTokens (.atSecond 100) ⟨3⟩ photoToken] =
      [] ++ KeyUse.issue spentTokens (.atSecond 100) ⟨3⟩ photoToken :: [] := rfl
  refine ⟨_, _, _, second, ring, rest, rfl, issued, by decide +kernel, ?_⟩
  rw [KeyRing.after_of_issue issued]
  exact KeyRing.redeem_of_kept (KeyRing.length_keys_of_alone rfl) (by decide +kernel) split
    (by decide) issued (by decide) counts

end TokenFactory

end UmaGrant
