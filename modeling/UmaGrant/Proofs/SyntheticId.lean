import UmaGrant.Proofs.Cipher.RoundTrip
import UmaGrant.Proofs.Text.Encodings
import UmaGrant.SyntheticId
/-! # Synthetic identifiers lead back

The real identifier is found again behind every synthetic one that was made with the key, under
whatever nonce. `realId` undoes a synthetic identifier where there is one and leaves others alone.
-/

namespace UmaGrant.IdCodec

private theorem parts_of_notMem {part : List Char} (plain : ':' ∉ part) : parts part = [part] := by
  induction part with
  | nil => rfl
  | cons char rest ih =>
    obtain ⟨differ, plainRest⟩ := not_or.mp (mt List.mem_cons.mpr plain)
    simp only [parts, if_neg (Ne.symm differ), ih plainRest]

private theorem parts_append_colon {part : List Char} (plain : ':' ∉ part) (rest : List Char) :
    parts (part ++ ':' :: rest) = part :: parts rest := by
  induction part with
  | nil => simp [parts]
  | cons char more ih =>
    obtain ⟨differ, plainMore⟩ := not_or.mp (mt List.mem_cons.mpr plain)
    simp only [List.cons_append, parts, if_neg (Ne.symm differ), ih plainMore]

/-- A synthetic identifier falls into the three parts of which it is made. -/
private theorem parts_encode (nonce tag cipherText : List UInt8) :
    parts (Hex.encode nonce ++ ':' :: Hex.encode tag ++ ':' :: Hex.encode cipherText) =
      [Hex.encode nonce, Hex.encode tag, Hex.encode cipherText] := by
  rw [List.append_assoc, List.cons_append, parts_append_colon (Hex.colon_notMem_encode _),
    parts_append_colon (Hex.colon_notMem_encode _), parts_of_notMem (Hex.colon_notMem_encode _)]

@[simp] theorem decode?_encode (codec : IdCodec) (nonce : Gcm.Nonce) (id : String) :
    codec.decode? (codec.encode nonce id) = some id := by
  have opened := Gcm.decrypt?_encrypt codec.keys nonce (Utf8.ofString id)
  have tagged : (Gcm.encrypt codec.keys nonce (Utf8.ofString id)).1.length = 16 :=
    Gcm.length_tag _ _ _
  simp only [decode?, encode, String.toList_ofList, parts_encode]
  simp [tagged, opened]

/-- Synthetic identifiers under different nonces differ. -/
theorem nonce_of_encode_eq {codec : IdCodec} {first second : Gcm.Nonce} {id other : String}
    (same : codec.encode first id = codec.encode second other) : first = second := by
  have split := congrArg (fun text : String => parts text.toList) same
  simp only [encode, String.toList_ofList, parts_encode] at split
  have read := congrArg Hex.decode? (List.cons.inj split).1
  rw [Hex.decode?_encode, Hex.decode?_encode] at read
  have lists := congrArg Gcm.Nonce.ofList? (Option.some.inj read)
  rw [Gcm.Nonce.ofList?_toList, Gcm.Nonce.ofList?_toList] at lists
  exact Option.some.inj lists

/-- The parts of a text and the colons between them make up the text. -/
private theorem length_parts (text : List Char) :
    (parts text).flatten.length + (parts text).length = text.length + 1 := by
  fun_induction parts text with
  | case1 => rfl
  | case2 rest ih =>
    simp only [List.flatten_cons, List.nil_append, List.length_cons]
    omega
  | case3 char rest differ part more split ih =>
    simp only [split, List.flatten_cons, List.length_append, List.length_cons] at ih ⊢
    omega
  | case4 char rest differ split ih => simp [split] at ih

/-- A synthetic identifier is longer than the one behind it, so they differ. -/
theorem length_lt_of_decode? {codec : IdCodec} {id real : String}
    (decoded : codec.decode? id = some real) : real.toList.length < id.toList.length := by
  have total := length_parts id.toList
  unfold decode? at decoded
  split at decoded
  case h_1 nonceText tagText cipherTextHex split =>
    rw [split] at total
    simp only [Option.bind_eq_bind, Option.bind_eq_some_iff] at decoded
    obtain ⟨nonce, _, tag, _, cipherText, written, decoded⟩ := decoded
    split at decoded
    · obtain ⟨bytes, opened, text⟩ := Option.bind_eq_some_iff.mp decoded
      obtain ⟨chars, read, rfl⟩ := Option.map_eq_some_iff.mp text
      unfold Gcm.decrypt? at opened
      split at opened
      · cases opened
        have bytes := Utf8.length_le_of_decode? read
        have digits := Hex.length_of_decode? written
        rw [Gcm.length_crypt] at bytes
        simp only [List.flatten_cons, List.flatten_nil, List.length_append, List.length_cons,
          List.length_nil, String.toList_ofList] at total ⊢
        omega
      · cases opened
    · cases decoded
  case h_2 => cases decoded

theorem ne_of_decode? {codec : IdCodec} {id real : String} (decoded : codec.decode? id = some real) :
    id ≠ real := by
  rintro rfl
  exact Nat.lt_irrefl _ (length_lt_of_decode? decoded)

/-- The identifier behind a synthetic one, or the identifier itself if it is none. -/
def realId (codec : IdCodec) (id : String) : String := (codec.decode? id).getD id

@[simp] theorem realId_encode (codec : IdCodec) (nonce : Gcm.Nonce) (id : String) :
    codec.realId (codec.encode nonce id) = id := by
  simp [realId]

end UmaGrant.IdCodec
