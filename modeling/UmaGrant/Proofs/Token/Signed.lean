import UmaGrant.Proofs.Consultation
import UmaGrant.Proofs.Json.Shapes
import UmaGrant.Proofs.Text.Base64Url
import UmaGrant.Proofs.Time.Calendar
import UmaGrant.Proofs.Token.Header
import UmaGrant.Proofs.Token.Standing
/-! # Signed tokens can be read

A signed token falls into its three parts, and each part is read as what was signed: the header names the
key, the claims are those of the token. So a ring that still has the key accepts the token for as long as
it counts.
-/

namespace UmaGrant

open JsonText (Readable)

/-! ## Claims -/

namespace TokenClaims

/-- Whether the times of claims are within the range in which they can be read. -/
structure Dated (claims : TokenClaims) : Prop where
  expiry : -Int.pow 2 63 ≤ claims.expiry ∧ claims.expiry ≤ Int.pow 2 63 - 1
  issuedAt : -Int.pow 2 63 ≤ claims.issuedAt ∧ claims.issuedAt ≤ Int.pow 2 63 - 1

variable {claims : TokenClaims}

private theorem readable_time {time : Int} (dated : -Int.pow 2 63 ≤ time ∧ time ≤ Int.pow 2 63 - 1)
    (depth : Nat) : Readable depth (.int time) := by
  have bounds : Int.pow 2 63 < Int.pow 2 64 := by decide
  exact .integer dated.1 (by omega)

theorem readable_members (dated : claims.Dated) :
    ∀ member ∈ claims.members, Readable 127 member.2 := by
  refine List.forall_mem_append.mpr ⟨?_, JsonText.readable_optionalMember fun json given => ?_⟩
  · simp only [List.forall_mem_cons]
    exact ⟨.string _, .string _, readable_time dated.expiry _, readable_time dated.issuedAt _,
      .string _, Permission.readable_listToJson 123 _, nofun⟩
  · obtain ⟨contract, _, rfl⟩ := Option.map_eq_some_iff.mp given
    exact .string contract

private theorem signed_int {time : Int} (dated : -Int.pow 2 63 ≤ time ∧ time ≤ Int.pow 2 63 - 1) :
    Shape.signed (.int time) = .ok time := by
  unfold Shape.signed Shape.bounded Json.int
  dsimp only
  rw [if_pos dated]

/-- Claims are read as they were written. -/
theorem shape_toJson (dated : claims.Dated) : shape claims.toJson = .ok claims := by
  have distinct : (claims.members.map (·.1)).Nodup := by
    cases contract : claims.contract <;> simp [members, contract, optionalMember]
  have found := Json.lookup_ofMembers distinct
  refine Fields.read_object ?_ _ _
  refine (Fields.give_pure mk).apply ?_ |>.apply ?_ |>.apply ?_ |>.apply ?_ |>.apply ?_
    |>.apply ?_ |>.apply ?_
  · exact Fields.give_required (found _) rfl
  · exact Fields.give_required (found _) rfl
  · exact Fields.give_required (found _) (signed_int dated.expiry)
  · exact Fields.give_required (found _) (signed_int dated.issuedAt)
  · exact Fields.give_required (found _) rfl
  · exact Fields.give_required (found _) (Permission.listShape_listToJson _)
  · refine Fields.give_optional Json.string ((found _).trans ?_) (fun _ same => by cases same)
      fun _ => rfl
    cases contract : claims.contract <;> simp [members, contract, optionalMember, Dict.lookup]

end TokenClaims

namespace SignedTokens

variable {tokens : SignedTokens} {ring : KeyRing} {key : SigningKey} {claims : TokenClaims}

/-! ## Parts -/

/-- The text of a token: what is signed, and the signature. -/
def tokenText (text signature : List UInt8) : String :=
  String.ofList ((text ++ dot :: Base64Url.encode signature).map fun byte => Char.ofNat byte.toNat)

theorem splitLastDot?_append (left : List UInt8) {right : List UInt8} (plain : dot ∉ right) :
    splitLastDot? (left ++ dot :: right) = some (left, right) := by
  have passes : ∀ byte ∈ right.reverse, decide (byte ≠ dot) = true := by
    intro byte member
    exact decide_eq_true fun same => plain (same ▸ List.mem_reverse.mp member)
  have backwards : (left ++ dot :: right).reverse = right.reverse ++ dot :: left.reverse := by simp
  have before : (dot :: left.reverse).dropWhile (fun byte => decide (byte ≠ dot)) =
      dot :: left.reverse := rfl
  have after : (dot :: left.reverse).takeWhile (fun byte => decide (byte ≠ dot)) = [] := rfl
  unfold splitLastDot?
  simp only [backwards, List.dropWhile_append_of_pos passes, List.takeWhile_append_of_pos passes,
    before, after, List.append_nil, List.reverse_reverse]

/-- A text is split at a dot with none behind it. -/
theorem of_splitLastDot? {bytes left right : List UInt8}
    (split : splitLastDot? bytes = some (left, right)) :
    bytes = left ++ dot :: right ∧ dot ∉ right := by
  unfold splitLastDot? at split
  dsimp only at split
  have whole := @List.takeWhile_append_dropWhile _ (fun byte => decide (byte ≠ dot)) bytes.reverse
  have passed := @List.all_takeWhile _ (fun byte => decide (byte ≠ dot)) bytes.reverse
  have stopped := List.head?_dropWhile_not (fun byte => decide (byte ≠ dot)) bytes.reverse
  generalize bytes.reverse.takeWhile (fun byte => decide (byte ≠ dot)) = last
    at split whole passed
  generalize bytes.reverse.dropWhile (fun byte => decide (byte ≠ dot)) = others
    at split whole stopped
  cases others with
  | nil => cases split
  | cons first before =>
    cases split
    have isDot : first = dot := by simpa using stopped
    refine ⟨?_, fun member => ?_⟩
    · have same := congrArg List.reverse whole
      rw [List.reverse_reverse, isDot] at same
      simp [← same]
    · have differs := List.all_eq_true.mp passed dot (List.mem_reverse.mp member)
      simp at differs

private theorem isSymbol_part {members : List (String × Json)} {byte : UInt8}
    (member : byte ∈ part members) : Base64Url.IsSymbol byte :=
  Base64Url.isSymbol_of_mem_encode member

theorem dot_notMem_part (members : List (String × Json)) : dot ∉ part members :=
  fun member => (isSymbol_part member).ne_dot rfl

private theorem ascii_token {signature : List UInt8} {byte : UInt8}
    (member : byte ∈ textFor key claims ++ dot :: Base64Url.encode signature) :
    byte.toNat < 0x80 := by
  have ascii : dot.toNat < 0x80 := by decide
  unfold textFor at member
  simp only [List.mem_append, List.mem_cons] at member
  rcases member with (header | rfl | payload) | rfl | signed
  · exact (isSymbol_part header).ascii
  · exact ascii
  · exact (isSymbol_part payload).ascii
  · exact ascii
  · exact (Base64Url.isSymbol_of_mem_encode signed).ascii

/-- A token falls into the parts of which it was made. -/
theorem ofToken?_tokenText (key : SigningKey) (claims : TokenClaims) (signature : List UInt8) :
    Parts.ofToken? (tokenText (textFor key claims) signature) =
      some ⟨part (headerMembers key), part claims.members, Base64Url.encode signature⟩ := by
  have bytes : Utf8.ofString (tokenText (textFor key claims) signature) =
      textFor key claims ++ dot :: Base64Url.encode signature :=
    Utf8.ofString_ofBytes fun _ member => ascii_token member
  have last : splitLastDot? (textFor key claims ++ dot :: Base64Url.encode signature) =
      some (textFor key claims, Base64Url.encode signature) :=
    splitLastDot?_append _ fun member => (Base64Url.isSymbol_of_mem_encode member).ne_dot rfl
  have first : splitLastDot? (textFor key claims) =
      some (part (headerMembers key), part claims.members) :=
    splitLastDot?_append _ (dot_notMem_part _)
  simp only [Parts.ofToken?, bytes, last, first, Option.bind_eq_bind, Option.bind_some,
    Option.pure_def]

/-! ## Reading the parts -/

private theorem decodePart_encode (bytes : List UInt8) :
    decodePart (Base64Url.encode bytes) = .ok bytes := by
  rw [decodePart, Base64Url.decode_encode]

theorem readHeader_part (key : SigningKey) (payload signature : List UInt8) :
    readHeader ⟨part (headerMembers key), payload, signature⟩ =
      .ok ⟨headerAlgorithm key.algorithm, some key.id⟩ := by
  simp only [readHeader, part, decodePart_encode, bind, Except.bind, JoseHeader.parse_header]

theorem readClaims_part (dated : claims.Dated) (header signature : List UInt8) :
    readClaims ⟨header, part claims.members, signature⟩ = .ok claims := by
  have read : TokenClaims.shape (.ofMembers claims.members) = .ok claims :=
    TokenClaims.shape_toJson dated
  simp only [readClaims, part, decodePart_encode, bind, Except.bind,
    JsonText.readBytes_object (TokenClaims.readable_members dated), read]

/-- What a ring says of a token that one of its keys, or another key, has signed. -/
theorem verify_tokenText (dated : claims.Dated) (ring : KeyRing) (now : Instant)
    (key : SigningKey) (signature : List UInt8) :
    tokens.verify ring now (tokenText (textFor key claims) signature) =
      match ring.find? key.id with
      | none => .error (.unknownKey key.id)
      | some found =>
        if headerAlgorithm key.algorithm ≠ headerAlgorithm found.algorithm then
          .error .wrongAlgorithm
        else if ring.scheme.verifies found ⟨textFor key claims, signature⟩ then
          (tokens.checkClaims now claims).map fun _ => claims
        else .error .wrongSignature := by
  have whole : Parts.signedText ⟨part (headerMembers key), part claims.members,
      Base64Url.encode signature⟩ = textFor key claims := rfl
  simp only [verify, ofToken?_tokenText, readHeader_part, decodePart_encode, readClaims_part dated,
    bind, Except.bind, whole]
  cases ring.find? key.id with
  | none => rfl
  | some found =>
    dsimp only
    split
    · rfl
    · split
      · cases tokens.checkClaims now claims <;> rfl
      · rfl

/-- Claims that were made at an instant with a date are in range. -/
theorem dated_of_claimsFor? {now : Instant} {id : String} {payload : AccessToken}
    (inRange : now.inRange = true) (claimed : tokens.claimsFor? now id payload = some claims) :
    claims.Dated := by
  have bounds : Instant.earliest.nanos = -377705116800000000000 ∧
      Instant.latest.nanos = 253402300799999999999 ∧ Int.pow 2 63 = 9223372036854775808 := by decide
  have seconds : ∀ instant : Instant, instant.inRange = true →
      -Int.pow 2 63 ≤ instant.unixSeconds ∧ instant.unixSeconds ≤ Int.pow 2 63 - 1 := by
    intro instant inRange
    simp only [Instant.inRange, Bool.and_eq_true, decide_eq_true_eq] at inRange
    rw [Instant.unixSeconds]
    omega
  obtain ⟨expiresAt, ending, rfl⟩ := Option.map_eq_some_iff.mp claimed
  exact ⟨seconds _ (Instant.of_after? ending).1, seconds now inRange⟩

/-- A token that is accepted is verified by a key that the ring has, and its claims pass. -/
theorem verify_eq_ok {now : Instant} {text : String}
    (verified : tokens.verify ring now text = .ok claims) :
    ∃ parts key signature, Parts.ofToken? text = some parts ∧
      decodePart parts.signature = .ok signature ∧ key ∈ ring.keys ∧
      ring.scheme.verifies key ⟨parts.signedText, signature⟩ = true ∧
      readClaims parts = .ok claims ∧
      tokens.checkClaims now claims = .ok () := by
  unfold verify at verified
  cases split : Parts.ofToken? text with
  | none =>
    rw [split] at verified
    cases verified
  | some parts =>
    rw [split] at verified
    obtain ⟨header, _, verified⟩ := except_bind_eq_ok_iff.mp verified
    cases named : header.keyId with
    | none =>
      rw [named] at verified
      cases verified
    | some id =>
      rw [named] at verified
      dsimp only at verified
      cases known : ring.find? id with
      | none =>
        rw [known] at verified
        cases verified
      | some key =>
        rw [known] at verified
        dsimp only at verified
        split at verified
        · cases verified
        · obtain ⟨signature, shown, verified⟩ := except_bind_eq_ok_iff.mp verified
          split at verified
          case isFalse => cases verified
          case isTrue signed =>
            obtain ⟨read, claimed, verified⟩ := except_bind_eq_ok_iff.mp verified
            obtain ⟨_, checked, same⟩ := except_bind_eq_ok_iff.mp verified
            cases same
            exact ⟨parts, key, signature, rfl, shown, List.mem_of_find?_eq_some known, signed,
              claimed, checked⟩

end SignedTokens

open SignedTokens in
/-- A factory of signed tokens that issues a token has claims for it, which the current key signs. -/
theorem TokenFactory.of_issue_signed {tokens : SignedTokens} {ring : KeyRing} {now : Instant}
    {supply left : Supply} {payload : AccessToken} {token : IssuedToken} {factory : TokenFactory}
    (issued : (TokenFactory.signed tokens ring).issue now supply payload =
      (some (token, factory), left)) :
    ∃ claims, tokens.claimsFor? now (Fresh.identifier supply.next) payload = some claims ∧
      token.text = tokenText (textFor ring.current claims)
        (ring.current.sign ring.scheme (supply.next + 1) (textFor ring.current claims)).1 ∧
      factory = .signed tokens (sign ring (supply.next + 1) claims).2 := by
  obtain ⟨made, _⟩ := Prod.mk.inj issued
  obtain ⟨_, made, same⟩ := Option.map_eq_some_iff.mp made
  obtain ⟨claims, claimed, rfl⟩ := Option.map_eq_some_iff.mp made
  obtain ⟨rfl, rfl⟩ := Prod.mk.inj same
  exact ⟨claims, claimed, rfl, rfl⟩

end UmaGrant
