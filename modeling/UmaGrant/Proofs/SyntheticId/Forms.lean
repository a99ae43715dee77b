import UmaGrant.Proofs.SyntheticId
import UmaGrant.Proofs.Text.Canonical
/-! # Nothing else is a synthetic identifier

A text that is read as a synthetic identifier is one, but for the case of its hexadecimal digits: its
parts are those that are written for the nonce, the tag and the encrypted text, and only one tag and one
encrypted text belong to an identifier under a nonce.
-/

namespace UmaGrant

namespace Gcm

/-- What decrypts is what encryption yields, and nothing else. -/
theorem decrypt?_eq_some_iff {keys : Aes.RoundKeys} {nonce : Nonce}
    {given cipherText text : List UInt8} :
    decrypt? keys nonce given cipherText = some text ↔
      encrypt keys nonce text = (given, cipherText) := by
  constructor
  · intro opened
    unfold decrypt? at opened
    split at opened
    case isTrue right =>
      cases opened
      rw [encrypt, crypt_crypt, right]
    case isFalse => cases opened
  · intro made
    have opened := decrypt?_encrypt keys nonce text
    rwa [made] at opened

/-- Words are read from their own bytes, up to three bytes that are left over. -/
private theorem flatMap_toWords (bytes : List UInt8) :
    ∃ left, (Aes.toWords bytes).flatMap Aes.Word.toList ++ left = bytes ∧ left.length < 4 := by
  fun_induction Aes.toWords bytes with
  | case1 a b c d rest ih =>
    obtain ⟨left, same, short⟩ := ih
    exact ⟨left, congrArg (a :: b :: c :: d :: ·) same, short⟩
  | case2 bytes short =>
    refine ⟨bytes, rfl, Nat.lt_of_not_le fun long => ?_⟩
    match bytes, long with
    | a :: b :: c :: d :: rest, _ => exact short a b c d rest rfl

/-- A nonce is read from its own twelve bytes and from no others. -/
theorem Nonce.toList_of_ofList? {bytes : List UInt8} {nonce : Nonce}
    (read : ofList? bytes = some nonce) : nonce.toList = bytes := by
  unfold ofList? at read
  split at read
  case h_1 first second third words =>
    split at read
    case isTrue twelve =>
      cases read
      obtain ⟨left, same, _⟩ := flatMap_toWords bytes
      have none : left = [] := by
        rw [words] at same
        have lengths := congrArg List.length same
        rw [List.length_append, twelve] at lengths
        exact List.length_eq_zero_iff.mp (Nat.add_eq_left.mp lengths)
      rw [words, none, List.append_nil] at same
      exact same
    case isFalse => cases read
  case h_2 => cases read

end Gcm

namespace IdCodec

/-- A text with its hexadecimal digits in lower case. -/
def lowered (text : String) : String := String.ofList (text.toList.map Hex.lowered)

theorem parts_eq_splitOn (text : List Char) : parts text = text.splitOn ':' := by
  induction text with
  | nil => rfl
  | cons char rest ih =>
    rw [parts, List.splitOn_cons_eq_if_modifyHead, ih]
    by_cases colon : char = ':'
    · rw [if_pos colon, if_pos (beq_iff_eq.mpr colon)]
    · rw [if_neg colon, if_neg (mt beq_iff_eq.mp colon)]
      cases split : rest.splitOn ':' with
      | nil => exact absurd split (List.splitOn_ne_nil _ _)
      | cons part more => rfl

private theorem parts_map_lowered (text : List Char) :
    parts (text.map Hex.lowered) = (parts text).map (·.map Hex.lowered) := by
  induction text with
  | nil => rfl
  | cons char rest ih =>
    simp only [List.map_cons, parts, Hex.lowered_eq_colon_iff, ih]
    by_cases colon : char = ':'
    · rw [if_pos colon, if_pos colon]
      rfl
    · rw [if_neg colon, if_neg colon]
      cases parts rest <;> rfl

/-- An identifier is read alike in either case. -/
theorem decode?_lowered (codec : IdCodec) (text : String) :
    codec.decode? (lowered text) = codec.decode? text := by
  unfold decode? lowered
  rw [String.toList_ofList, parts_map_lowered]
  match parts text.toList with
  | [nonce, tag, cipherText] => simp only [List.map_cons, List.map_nil, Hex.decode?_map_lowered]
  | [] | [_] | [_, _] | _ :: _ :: _ :: _ :: _ => rfl

/-- A text of three parts is made up of them and the colons between them. -/
private theorem map_lowered_of_parts {text first second third : List Char}
    (split : parts text = [first, second, third]) :
    text.map Hex.lowered = first.map Hex.lowered ++ ':' :: second.map Hex.lowered ++
      ':' :: third.map Hex.lowered := by
  have joined := @List.intercalate_splitOn _ text _ _ ':'
  rw [← parts_eq_splitOn, split] at joined
  have colon : Hex.lowered ':' = ':' := rfl
  rw [← joined]
  simp only [List.intercalate_cons_cons, List.intercalate_singleton, List.map_append, List.map_cons,
    colon, List.append_assoc, List.cons_append, List.nil_append]

/-- A text that is read has the parts that are written for its identifier under some nonce. -/
theorem lowered_of_decode? {codec : IdCodec} {text id : String}
    (read : codec.decode? text = some id) : ∃ nonce, lowered text = codec.encode nonce id := by
  unfold decode? at read
  split at read
  case h_1 nonceText tagText cipherTextHex split =>
    simp only [Option.bind_eq_bind, Option.bind_eq_some_iff] at read
    obtain ⟨nonce, ⟨nonceBytes, nonceRead, nonceMade⟩, tag, tagRead, cipherText, cipherRead, read⟩ :=
      read
    split at read
    case isFalse => cases read
    case isTrue =>
      obtain ⟨bytes, opened, read⟩ := Option.bind_eq_some_iff.mp read
      obtain ⟨chars, characters, rfl⟩ := Option.map_eq_some_iff.mp read
      rw [Gcm.decrypt?_eq_some_iff] at opened
      rw [Utf8.decode?_eq_some_iff] at characters
      rw [Hex.decode?_eq_some_iff] at nonceRead tagRead cipherRead
      have encrypted : Gcm.encrypt codec.keys nonce (Utf8.ofString (String.ofList chars)) =
          (tag, cipherText) := by
        rw [Utf8.ofString, String.toList_ofList, ← characters]
        exact opened
      refine ⟨nonce, ?_⟩
      rw [lowered, map_lowered_of_parts split, nonceRead, tagRead, cipherRead, encode, encrypted,
        Gcm.Nonce.toList_of_ofList? nonceMade]
  case h_2 => cases read

/-- An identifier is read from its synthetic forms, in digits of either case, and from nothing else. -/
theorem decode?_exact (codec : IdCodec) :
    (∀ nonce id, codec.decode? (codec.encode nonce id) = some id) ∧
      (∀ text id, codec.decode? text = some id ↔ ∃ nonce, lowered text = codec.encode nonce id) ∧
      ∀ text, codec.decode? text = none ↔ ∀ nonce id, lowered text ≠ codec.encode nonce id := by
  have reads : ∀ text id, codec.decode? text = some id ↔
      ∃ nonce, lowered text = codec.encode nonce id := by
    refine fun text id => ⟨lowered_of_decode?, fun ⟨nonce, form⟩ => ?_⟩
    rw [← decode?_lowered, form, decode?_encode]
  refine ⟨codec.decode?_encode, reads, fun text => ?_⟩
  rw [Option.eq_none_iff_forall_ne_some]
  exact ⟨fun none nonce id form => none id ((reads text id).mpr ⟨nonce, form⟩),
    fun none id read => (lowered_of_decode? read).elim fun nonce => none nonce id⟩

end IdCodec

end UmaGrant
