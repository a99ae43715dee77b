import UmaGrant.Proofs.Token.KeyUse
import UmaGrant.Proofs.Token.Signed
/-! # The window of a rotation

A ring that keeps so many earlier keys publishes as many and the current one, the latest first, and finds
just these. So a signed token is accepted for as many rotations as keys are kept, as long as it counts,
and never after one rotation more.
-/

namespace UmaGrant

open KeyUse (rotations)
open SignedTokens (tokenText textFor)

namespace KeyRing

variable {ring : KeyRing}

theorem find?_isSome_iff (ring : KeyRing) (id : String) :
    (ring.find? id).isSome = true ↔ id ∈ ring.toPublic.keys.map (·.id) := by
  rw [find?, List.find?_isSome, toPublic, List.map_map, List.mem_map]
  simp only [decide_eq_true_eq]
  rfl

/-- Where all identifiers differ, every key is found by its own. -/
theorem find?_of_mem (distinct : (ring.toPublic.keys.map (·.id)).Nodup) {key : SigningKey}
    (member : key ∈ ring.keys) : ring.find? key.id = some key := by
  rw [toPublic, List.map_map] at distinct
  rw [find?]
  generalize ring.keys = listed at distinct member ⊢
  induction listed with
  | nil => cases member
  | cons first rest ih =>
    obtain ⟨new, others⟩ := List.nodup_cons.mp distinct
    rcases List.mem_cons.mp member with rfl | member
    · exact List.find?_cons_of_pos (decide_eq_true rfl)
    · have differs : first.id ≠ key.id := fun same => new (List.mem_map.mpr ⟨key, member, same.symm⟩)
      rw [List.find?_cons_of_neg (by simpa using differs)]
      exact ih others member

variable {start : KeyRing}

theorem length_keys_of_alone (alone : start.previous = []) :
    start.keys.length ≤ start.keep + 1 := by
  rw [keys, alone]
  exact Nat.succ_le_succ (Nat.zero_le _)

/-- Identifiers that differ in the whole history differ in the ring. -/
private theorem distinct_after (small : start.keys.length ≤ start.keep + 1) {uses : List KeyUse}
    (distinct : ((start.publicHistory uses).map (·.id)).Nodup) :
    ((start.after uses).toPublic.keys.map (·.id)).Nodup := by
  rw [publicKeys_after small, List.map_take]
  exact distinct.sublist (List.take_sublist _ _)

/-- The history of a ring goes back over its current key. -/
private theorem publicHistory_split (small : start.keys.length ≤ start.keep + 1)
    {uses before rest : List KeyUse} {use : KeyUse} (split : uses = before ++ use :: rest)
    (still : use.rotation? = none) :
    ∃ older, start.publicHistory uses =
      (rotations rest).reverse.map
          (fun number => (SigningKey.fresh start.algorithm number).toPublic) ++
        (start.after before).current.toPublic :: older := by
  have latest := publicKeys_after small before
  have front : start.publicHistory before ≠ [] := by
    intro nothing
    rw [nothing] at latest
    cases latest
  obtain ⟨newest, older, known⟩ := List.exists_cons_of_ne_nil front
  rw [known, List.take_succ_cons] at latest
  have same : (start.after before).current.toPublic = newest := (List.cons.inj latest).1
  have counted : rotations uses = rotations before ++ rotations rest := by
    rw [split, KeyUse.rotations_append]
    exact congrArg _ (List.filterMap_cons_none still)
  refine ⟨older, ?_⟩
  rw [same, ← known, publicHistory, publicHistory, counted, List.reverse_append, List.map_append,
    List.append_assoc]

end KeyRing

namespace SignedTokens

/-- Whether a token that was issued at an instant counts at another: it expires after the start of 1970,
and not more than a minute before. -/
def Counts (tokens : SignedTokens) (issued later : Instant) : Prop :=
  ∃ expiresAt, issued.after? tokens.lifetime = some expiresAt ∧ 0 ≤ expiresAt.unixSeconds ∧
    later.unixSeconds - leeway ≤ expiresAt.unixSeconds

/-- A token that has not expired counts, on every clock since the start of 1970. -/
theorem counts_of_unexpired {tokens : SignedTokens} {issued later expiresAt : Instant}
    (ending : issued.after? tokens.lifetime = some expiresAt) (epoch : 0 ≤ later.nanos)
    (unexpired : later.nanos ≤ expiresAt.nanos) : tokens.Counts issued later := by
  refine ⟨expiresAt, ending, ?_, ?_⟩ <;> unfold Instant.unixSeconds <;> try unfold leeway
  all_goals omega

variable {tokens : SignedTokens} {now later : Instant} {id : String} {payload : AccessToken}
  {claims : TokenClaims}

theorem Counts.checkClaims (counts : tokens.Counts now later)
    (claimed : tokens.claimsFor? now id payload = some claims) :
    tokens.checkClaims later claims = .ok () := by
  obtain ⟨expiresAt, ending, epoch, lasting⟩ := counts
  rw [claimsFor?, ending] at claimed
  cases claimed
  rw [SignedTokens.checkClaims, if_neg (Int.not_lt.mpr epoch), if_neg (Int.not_lt.mpr lasting),
    if_neg (not_not_intro rfl), if_neg (not_not_intro rfl)]

/-- Where the ring has the key that signed a token, its claims decide. -/
theorem redeem_eq_of_grown {ring : KeyRing} {key grown : SigningKey} {number : Nat}
    (dated : now.inRange = true) (claimed : tokens.claimsFor? now id payload = some claims)
    (found : ring.find? key.id = some grown)
    (grows : (key.sign ring.scheme number (textFor key claims)).2.Grows ring.scheme grown)
    (later : Instant) :
    tokens.redeem ring later
        (tokenText (textFor key claims) (key.sign ring.scheme number (textFor key claims)).1) =
      match tokens.checkClaims later claims with
      | .ok _ => .ok payload
      | .error fault => .error fault.toGrantError := by
  have algorithm : grown.algorithm = key.algorithm := grows.algorithm
  have signed := grows.verifies (key.verifies_sign number (textFor key claims))
  rw [redeem, verify_tokenText (dated_of_claimsFor? dated claimed), found]
  dsimp only
  rw [if_neg (not_not_intro (congrArg headerAlgorithm algorithm.symm)), if_pos signed]
  obtain ⟨expiresAt, _, rfl⟩ := Option.map_eq_some_iff.mp claimed
  cases tokens.checkClaims later _ <;> rfl

/-- A token is accepted for as long as it counts and the ring has the key that signed it. -/
theorem redeem_of_grown {ring : KeyRing} {key grown : SigningKey} {number : Nat}
    (dated : now.inRange = true) (claimed : tokens.claimsFor? now id payload = some claims)
    (found : ring.find? key.id = some grown)
    (grows : (key.sign ring.scheme number (textFor key claims)).2.Grows ring.scheme grown)
    (counts : tokens.Counts now later) :
    tokens.redeem ring later
        (tokenText (textFor key claims) (key.sign ring.scheme number (textFor key claims)).1) =
      .ok payload := by
  rw [redeem_eq_of_grown dated claimed found grows, counts.checkClaims claimed]

end SignedTokens

namespace KeyRing

variable {start : KeyRing} {uses before rest : List KeyUse} {tokens : SignedTokens} {now later : Instant}
  {supply left : Supply} {payload : AccessToken} {token : IssuedToken} {factory : TokenFactory}

/-- A key is found under its identifier after any uses, as long as the ring keeps it. -/
theorem find?_after (small : start.keys.length ≤ start.keep + 1)
    (distinct : ((start.publicHistory uses).map (·.id)).Nodup)
    (split : uses = before ++ .issue tokens now supply payload :: rest)
    (kept : (rotations rest).length ≤ start.keep) :
    ∃ grown, (start.after uses).find? (start.after before).current.id = some grown ∧
      ((start.after before).use (.issue tokens now supply payload)).current.Grows
        (start.after uses).scheme grown := by
  have onward : start.after uses =
      ((start.after before).use (.issue tokens now supply payload)).after rest := by
    rw [split, after_append]
    rfl
  have within : 0 + (rotations rest).length ≤
      ((start.after before).use (.issue tokens now supply payload)).keep := by
    rw [(use_terms _ _).keep, (after_terms _ _).keep]
    omega
  obtain ⟨grown, present, grows⟩ := grows_after rfl within
  rw [← (after_terms _ rest).scheme, ← onward] at grows
  have same : ((start.after before).use (.issue tokens now supply payload)).current.id =
      (start.after before).current.id := by
    rw [use_issue]
    cases tokens.claimsFor? now (Fresh.identifier supply.next) payload <;> rfl
  rw [← onward] at present
  have own := find?_of_mem (distinct_after small distinct) (List.mem_of_getElem? present)
  rw [grows.id, same] at own
  exact ⟨grown, own, grows⟩

/-- While the key that signed a token is kept, the claims of the token decide. -/
theorem redeem_eq_of_kept (small : start.keys.length ≤ start.keep + 1)
    (distinct : ((start.publicHistory uses).map (·.id)).Nodup)
    (split : uses = before ++ .issue tokens now supply payload :: rest) (dated : now.inRange = true)
    (issued : (TokenFactory.signed tokens (start.after before)).issue now supply payload =
      (some (token, factory), left))
    (kept : (rotations rest).length ≤ start.keep) (later : Instant) :
    ∃ claims, tokens.claimsFor? now (Fresh.identifier supply.next) payload = some claims ∧
      ((TokenFactory.signed tokens (start.after uses)).redeem later token.text).1 =
        match tokens.checkClaims later claims with
        | .ok _ => .ok payload
        | .error fault => .error fault.toGrantError := by
  obtain ⟨grown, found, grows⟩ := find?_after small distinct split kept
  obtain ⟨claims, claimed, text, rfl⟩ := TokenFactory.of_issue_signed issued
  have scheme : (start.after before).scheme = (start.after uses).scheme := by
    rw [(after_terms _ _).scheme, (after_terms _ _).scheme]
  rw [use_issue, claimed] at grows
  change SigningKey.Grows ((start.after before).current.sign (start.after before).scheme
    (supply.next + 1) (textFor (start.after before).current claims)).2 _ grown at grows
  rw [scheme] at text grows
  generalize (start.after before).current = key at text found grows
  refine ⟨claims, claimed, ?_⟩
  change tokens.redeem (start.after uses) later token.text = _
  rw [text]
  exact SignedTokens.redeem_eq_of_grown dated claimed found grows later

/-- A token is accepted for as long as it counts and the key that signed it is kept. -/
theorem redeem_of_kept (small : start.keys.length ≤ start.keep + 1)
    (distinct : ((start.publicHistory uses).map (·.id)).Nodup)
    (split : uses = before ++ .issue tokens now supply payload :: rest) (dated : now.inRange = true)
    (issued : (TokenFactory.signed tokens (start.after before)).issue now supply payload =
      (some (token, factory), left))
    (kept : (rotations rest).length ≤ start.keep) (counts : tokens.Counts now later) :
    ((TokenFactory.signed tokens (start.after uses)).redeem later token.text).1 = .ok payload := by
  obtain ⟨claims, claimed, redeemed⟩ := redeem_eq_of_kept small distinct split dated issued kept later
  rw [redeemed, counts.checkClaims claimed]

/-- A token is refused once the key that signed it is not kept any more. -/
theorem redeem_of_gone (small : start.keys.length ≤ start.keep + 1)
    (distinct : ((start.publicHistory uses).map (·.id)).Nodup)
    (split : uses = before ++ .issue tokens now supply payload :: rest) (dated : now.inRange = true)
    (issued : (TokenFactory.signed tokens (start.after before)).issue now supply payload =
      (some (token, factory), left))
    (gone : start.keep < (rotations rest).length) (later : Instant) :
    ((TokenFactory.signed tokens (start.after uses)).redeem later token.text).1 =
      .error (.invalidToken
        (TokenError.unknownKey (start.after before).current.id).message) := by
  obtain ⟨claims, claimed, text, rfl⟩ := TokenFactory.of_issue_signed issued
  obtain ⟨older, history⟩ := publicHistory_split small split rfl
  generalize (start.after before).current = key at text history
  have missing : (start.after uses).find? key.id = none := by
    rw [← Option.not_isSome_iff_eq_none, find?_isSome_iff, publicKeys_after small]
    rw [history, List.map_append, List.nodup_append] at distinct
    rw [history, List.take_append_of_le_length (by
      rw [List.length_map, List.length_reverse]
      exact gone)]
    intro member
    have among := List.mem_of_mem_take (List.map_take .. ▸ member)
    exact distinct.2.2 _ among _ List.mem_cons_self rfl
  have verified : tokens.verify (start.after uses) later token.text = .error (.unknownKey key.id) := by
    rw [text, SignedTokens.verify_tokenText (SignedTokens.dated_of_claimsFor? dated claimed), missing]
  change tokens.redeem (start.after uses) later token.text = _
  rw [SignedTokens.redeem, verified]
  rfl

/-- A ring that starts with one key, and whose keys all have identifiers of their own, publishes after
any uses the current key and those before it, as many as are kept, and finds just these. A signed token
is accepted with what it says as long as it counts and no more rotations have come since, and with one
rotation more it is refused. -/
theorem window_after (alone : start.previous = []) (uses : List KeyUse)
    (distinct : ((start.publicHistory uses).map (·.id)).Nodup) :
    (start.after uses).toPublic.keys = (start.publicHistory uses).take (start.keep + 1) ∧
      (start.after uses).toPublic.keys.length = min (rotations uses).length start.keep + 1 ∧
      (start.after uses).toPublic.keys.head? = some (start.after uses).current.toPublic ∧
      (∀ id, ((start.after uses).find? id).isSome = true ↔
        id ∈ (start.after uses).toPublic.keys.map (·.id)) ∧
      ∀ before rest tokens now supply payload token factory left later,
        uses = before ++ .issue tokens now supply payload :: rest → now.inRange = true →
        (TokenFactory.signed tokens (start.after before)).issue now supply payload =
          (some (token, factory), left) →
        ((rotations rest).length ≤ start.keep → tokens.Counts now later →
          ((TokenFactory.signed tokens (start.after uses)).redeem later token.text).1 =
            .ok payload) ∧
        (start.keep < (rotations rest).length → ∃ message,
          ((TokenFactory.signed tokens (start.after uses)).redeem later token.text).1 =
            .error (.invalidToken message)) := by
  have small := length_keys_of_alone alone
  refine ⟨publicKeys_after small uses, ?_, rfl, fun id => find?_isSome_iff _ id, ?_⟩
  · have count : (start.publicHistory uses).length = (rotations uses).length + 1 := by
      rw [publicHistory, List.length_append, List.length_map, List.length_reverse, toPublic,
        List.length_map, keys, alone]
      rfl
    rw [publicKeys_after small, List.length_take, count]
    omega
  · intro before rest tokens now supply payload token factory left later split dated issued
    exact ⟨fun kept counts => redeem_of_kept small distinct split dated issued kept counts,
      fun gone => ⟨_, redeem_of_gone small distinct split dated issued gone later⟩⟩

/-! ## A ring that keeps one earlier key -/

def keepingOne : KeyRing := .fresh .es384 1 0

def solidTokens : SignedTokens :=
  ⟨"https://as.example", SignedTokens.defaultAudience, SignedTokens.defaultLifetime⟩

def photoToken : AccessToken := ⟨[.of "photo" [Scope.read]], none⟩

/-- The token for the photo is issued at the start of 1970. -/
def photoIssued : KeyUse := .issue solidTokens ⟨0⟩ ⟨3⟩ photoToken

/-- A token outlives one rotation and not the next. -/
theorem window_after_rotations :
    ∃ token factory left,
      (TokenFactory.signed solidTokens keepingOne).issue ⟨0⟩ ⟨3⟩ photoToken =
        (some (token, factory), left) ∧
      ((TokenFactory.signed solidTokens (keepingOne.after [photoIssued, .rotate 1])).redeem
        ⟨Lifetime.minutes 10⟩ token.text).1 = .ok photoToken ∧
      ∃ message, ((TokenFactory.signed solidTokens
          (keepingOne.after [photoIssued, .rotate 1, .rotate 2])).redeem
        ⟨Lifetime.minutes 10⟩ token.text).1 = .error (.invalidToken message) := by
  obtain ⟨_, _, _, _, once⟩ := @window_after keepingOne rfl
    [photoIssued, .rotate 1] (by decide +kernel)
  obtain ⟨_, _, _, _, twice⟩ := @window_after keepingOne rfl
    [photoIssued, .rotate 1, .rotate 2] (by decide +kernel)
  have counts : solidTokens.Counts ⟨0⟩ ⟨Lifetime.minutes 10⟩ :=
    SignedTokens.counts_of_unexpired rfl (by decide) (by decide)
  refine ⟨_, _, _, rfl, ?_, ?_⟩
  · exact (once [] _ _ _ _ _ _ _ _ _ rfl (by decide) rfl).1 (by decide) counts
  · exact (twice [] _ _ _ _ _ _ _ _ _ rfl (by decide) rfl).2 (by decide)

end KeyRing

end UmaGrant
