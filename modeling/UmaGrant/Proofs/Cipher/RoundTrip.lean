import UmaGrant.Cipher.Gcm
/-! # Decryption undoes encryption

The text and the stream of a nonce are added byte by byte, so adding the stream again gives the
text back. The tag is computed from the encrypted text alone, so decryption finds the one that it
expects.
-/

namespace UmaGrant.Gcm

open Aes (RoundKeys)

/-- Adding the same bytes twice changes nothing as far as they reach. -/
private theorem zipWith_xor_cancel (bytes stream : List UInt8) :
    List.zipWith (· ^^^ ·) (List.zipWith (· ^^^ ·) bytes stream) stream =
      bytes.take stream.length := by
  induction bytes generalizing stream with
  | nil => simp
  | cons byte rest ih =>
    cases stream with
    | nil => rfl
    | cons pad more =>
      rw [List.zipWith_cons_cons, List.zipWith_cons_cons, ih, UInt8.xor_assoc, UInt8.xor_self,
        UInt8.xor_zero, List.length_cons, List.take_succ_cons]

private theorem addStream_of_ne_nil (keys : RoundKeys) (nonce : Nonce) (count fuel : Nat)
    {bytes : List UInt8} (nonempty : bytes ≠ []) :
    addStream keys nonce count (fuel + 1) bytes =
      List.zipWith (· ^^^ ·) bytes (Aes.encrypt keys (counterBlock nonce count)).toList ++
        addStream keys nonce (count + 1) fuel (bytes.drop 16) := by
  cases bytes with
  | nil => exact absurd rfl nonempty
  | cons byte rest => rfl

/-- A first block of text and what follows it come apart again: nothing follows an incomplete one. -/
private theorem split_blocks {stream : List UInt8} (first second : List UInt8) (full : stream.length = 16)
    (whole : first.length = 16 ∨ first.length < 16 ∧ second = []) :
    List.zipWith (· ^^^ ·) (first ++ second) stream = List.zipWith (· ^^^ ·) first stream ∧
      (first ++ second).drop 16 = second := by
  rcases whole with complete | ⟨short, rfl⟩
  · refine ⟨?_, by rw [← complete, List.drop_left]⟩
    rw [← List.append_nil stream, List.zipWith_append (by rw [complete, full])]
    simp
  · exact ⟨by rw [List.append_nil], by rw [List.append_nil, List.drop_eq_nil_of_le (by omega)]⟩

/-- With fuel for all blocks nothing of the text is lost, and a second pass undoes the first. -/
private theorem addStream_addStream (keys : RoundKeys) (nonce : Nonce) (count fuel : Nat)
    (bytes : List UInt8) (enough : bytes.length < fuel) :
    (addStream keys nonce count fuel bytes).length = bytes.length ∧
      addStream keys nonce count fuel (addStream keys nonce count fuel bytes) = bytes := by
  induction fuel generalizing count bytes with
  | zero => omega
  | succ fuel ih =>
    by_cases nonempty : bytes = []
    · simp [nonempty, addStream]
    have positive := List.length_pos_iff.mpr nonempty
    obtain ⟨length, back⟩ := ih (count + 1) (bytes.drop 16) (by rw [List.length_drop]; omega)
    have once := addStream_of_ne_nil keys nonce count fuel nonempty
    generalize pad : (Aes.encrypt keys (counterBlock nonce count)).toList = stream at once
    have full : stream.length = 16 := by rw [← pad]; rfl
    generalize tail : addStream keys nonce (count + 1) fuel (bytes.drop 16) = second at once length back
    rw [List.length_drop] at length
    have same : (addStream keys nonce count (fuel + 1) bytes).length = bytes.length := by
      rw [once, List.length_append, List.length_zipWith, full, length]
      omega
    obtain ⟨zipped, dropped⟩ :=
      split_blocks (List.zipWith (· ^^^ ·) bytes stream) second full (by
        rw [List.length_zipWith, full]
        by_cases complete : 16 ≤ bytes.length
        · exact .inl (by omega)
        · exact .inr ⟨by omega, List.length_eq_zero_iff.mp (by omega)⟩)
    refine ⟨same, ?_⟩
    rw [addStream_of_ne_nil keys nonce count fuel (by rw [← List.length_pos_iff, same]; exact positive),
      pad, once, zipped, dropped, back, zipWith_xor_cancel, full, List.take_append_drop]

theorem crypt_crypt (keys : RoundKeys) (nonce : Nonce) (bytes : List UInt8) :
    crypt keys nonce (crypt keys nonce bytes) = bytes := by
  obtain ⟨length, back⟩ := addStream_addStream keys nonce 2 (bytes.length + 1) bytes (Nat.lt_succ_self _)
  simp only [crypt, length, back]

@[simp] theorem length_crypt (keys : RoundKeys) (nonce : Nonce) (bytes : List UInt8) :
    (crypt keys nonce bytes).length = bytes.length :=
  (addStream_addStream keys nonce 2 (bytes.length + 1) bytes (Nat.lt_succ_self _)).1

@[simp] theorem length_bigEndian (count value : Nat) : (bigEndian count value).length = count := by
  induction count with
  | zero => rfl
  | succ count ih => simp [bigEndian, ih]

@[simp] theorem length_tag (keys : RoundKeys) (nonce : Nonce) (cipherText : List UInt8) :
    (tag keys nonce cipherText).length = 16 := by
  simp [tag]

/-- What was encrypted decrypts under the same key and nonce. -/
theorem decrypt?_encrypt (keys : RoundKeys) (nonce : Nonce) (text : List UInt8) :
    decrypt? keys nonce (encrypt keys nonce text).1 (encrypt keys nonce text).2 = some text := by
  simp [decrypt?, encrypt, crypt_crypt]

@[simp] theorem Nonce.ofList?_toList (nonce : Nonce) : Nonce.ofList? nonce.toList = some nonce := rfl

end UmaGrant.Gcm
