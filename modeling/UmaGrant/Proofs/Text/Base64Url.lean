import UmaGrant.Text.Base64Url
/-! # Bytes in base64 can be read

Reading undoes writing also in base64. The symbols of written bytes are ASCII and none of them is
padding or a dot, so that written bytes can stand between dots in a text.
-/

namespace UmaGrant.Base64Url

/-! ## Symbols -/

theorem value?_symbol {value : Nat} (small : value < 64) : value? (symbol value) = some value := by
  have all : ∀ candidate < 64, value? (symbol candidate) = some candidate := by decide
  exact all value small

private theorem valueAt_symbol {value : Nat} (small : value < 64) (offset : Nat) :
    valueAt (symbol value) offset = .ok value := by
  rw [valueAt, value?_symbol small]

private theorem symbol_ne_pad {value : Nat} (small : value < 64) : symbol value ≠ pad := by
  have all : ∀ candidate < 64, symbol candidate ≠ pad := by decide
  exact all value small

/-- Whether a byte can stand in written bytes. -/
def IsSymbol (byte : UInt8) : Prop := ∃ value < 64, byte = symbol value

theorem IsSymbol.ascii {byte : UInt8} (isSymbol : IsSymbol byte) : byte.toNat < 0x80 := by
  obtain ⟨value, small, rfl⟩ := isSymbol
  have all : ∀ candidate < 64, (symbol candidate).toNat < 0x80 := by decide
  exact all value small

theorem IsSymbol.ne_dot {byte : UInt8} (isSymbol : IsSymbol byte) : byte ≠ 46 := by
  obtain ⟨value, small, rfl⟩ := isSymbol
  have all : ∀ candidate < 64, symbol candidate ≠ 46 := by decide
  exact all value small

theorem isSymbol_of_mem_encode {bytes : List UInt8} {byte : UInt8} (member : byte ∈ encode bytes) :
    IsSymbol byte := by
  fun_induction encode bytes with
  | case1 => cases member
  | case2 a =>
    have bound := a.toNat_lt
    simp only [List.mem_cons, List.not_mem_nil, or_false] at member
    rcases member with rfl | rfl <;> exact ⟨_, by omega, rfl⟩
  | case3 a b =>
    have bound := a.toNat_lt
    have bound' := b.toNat_lt
    simp only [List.mem_cons, List.not_mem_nil, or_false] at member
    rcases member with rfl | rfl | rfl <;> exact ⟨_, by omega, rfl⟩
  | case4 a b c rest ih =>
    have bound := a.toNat_lt
    have bound' := b.toNat_lt
    have bound'' := c.toNat_lt
    simp only [List.mem_cons] at member
    rcases member with rfl | rfl | rfl | rfl | member
    · exact ⟨_, by omega, rfl⟩
    · exact ⟨_, by omega, rfl⟩
    · exact ⟨_, by omega, rfl⟩
    · exact ⟨_, by omega, rfl⟩
    · exact ih member

/-! ## Groups -/

private theorem firstByte_split (a : UInt8) {low : Nat} (small : low < 16) :
    firstByte (a.toNat / 4) (a.toNat % 4 * 16 + low) = a := by
  have whole : a.toNat / 4 * 4 + (a.toNat % 4 * 16 + low) / 16 = a.toNat := by omega
  rw [firstByte, whole, Nat.toUInt8_eq, UInt8.ofNat_toNat]

private theorem secondByte_split (b : UInt8) (high : Nat) {low : Nat} (small : low < 4) :
    secondByte (high * 16 + b.toNat / 16) (b.toNat % 16 * 4 + low) = b := by
  have bound := b.toNat_lt
  have whole : (high * 16 + b.toNat / 16) % 16 * 16 + (b.toNat % 16 * 4 + low) / 4 = b.toNat := by
    omega
  rw [secondByte, whole, Nat.toUInt8_eq, UInt8.ofNat_toNat]

private theorem thirdByte_split (c : UInt8) (high : Nat) :
    thirdByte (high * 4 + c.toNat / 64) (c.toNat % 64) = c := by
  have bound := c.toNat_lt
  have whole : (high * 4 + c.toNat / 64) % 4 * 64 + c.toNat % 64 = c.toNat := by omega
  rw [thirdByte, whole, Nat.toUInt8_eq, UInt8.ofNat_toNat]

/-- The four symbols of three bytes give the bytes back. -/
private theorem quartet (a b c : UInt8) :
    let second := a.toNat % 4 * 16 + b.toNat / 16
    let third := b.toNat % 16 * 4 + c.toNat / 64
    (a.toNat / 4 < 64 ∧ second < 64 ∧ third < 64 ∧ c.toNat % 64 < 64) ∧
      firstByte (a.toNat / 4) second = a ∧ secondByte second third = b ∧
        thirdByte third (c.toNat % 64) = c := by
  have bound := a.toNat_lt
  have bound' := b.toNat_lt
  have bound'' := c.toNat_lt
  refine ⟨by omega, firstByte_split a (by omega), secondByte_split b _ (by omega), ?_⟩
  exact thirdByte_split c _

private theorem decodeLast_one (a : UInt8) (offset : Nat) :
    decodeLast [symbol (a.toNat / 4), symbol (a.toNat % 4 * 16)] offset = .ok [a] := by
  have bound := a.toNat_lt
  have first : firstByte (a.toNat / 4) (a.toNat % 4 * 16) = a := firstByte_split a (Nat.succ_pos 15)
  have aligned : a.toNat % 4 * 16 % 16 = 0 := by omega
  rw [decodeLast, valueAt_symbol (by omega), valueAt_symbol (by omega)]
  simp only [bind, Except.bind, aligned, first]
  rfl

private theorem decodeLast_two (a b : UInt8) (offset : Nat) :
    decodeLast [symbol (a.toNat / 4), symbol (a.toNat % 4 * 16 + b.toNat / 16),
      symbol (b.toNat % 16 * 4)] offset = .ok [a, b] := by
  have bound := a.toNat_lt
  have bound' := b.toNat_lt
  have first : firstByte (a.toNat / 4) (a.toNat % 4 * 16 + b.toNat / 16) = a :=
    firstByte_split a (by omega)
  have second : secondByte (a.toNat % 4 * 16 + b.toNat / 16) (b.toNat % 16 * 4) = b :=
    secondByte_split b _ (Nat.succ_pos 3)
  have aligned : b.toNat % 16 * 4 % 4 = 0 := by omega
  rw [decodeLast, valueAt_symbol (by omega), valueAt_symbol (by omega), valueAt_symbol (by omega)]
  simp only [bind, Except.bind, symbol_ne_pad (show b.toNat % 16 * 4 < 64 by omega), aligned, first,
    second]
  rfl

private theorem decodeLast_three (a b c : UInt8) (offset : Nat) :
    decodeLast (encode [a, b, c]) offset = .ok [a, b, c] := by
  obtain ⟨⟨one, two, three, four⟩, first, second, third⟩ := quartet a b c
  rw [encode, encode, decodeLast, valueAt_symbol one, valueAt_symbol two, valueAt_symbol three,
    valueAt_symbol four]
  simp only [bind, Except.bind, symbol_ne_pad three, symbol_ne_pad four, first, second, third]
  rfl

private theorem encode_ne_nil {bytes : List UInt8} (nonempty : bytes ≠ []) : encode bytes ≠ [] := by
  fun_cases encode bytes
  case case1 => exact absurd rfl nonempty
  all_goals exact List.cons_ne_nil _ _

private theorem decodeGroups_encode (bytes : List UInt8) (offset : Nat) :
    decodeGroups offset (encode bytes) = .ok bytes := by
  fun_induction encode bytes generalizing offset with
  | case1 => rfl
  | case2 a => exact decodeLast_one a offset
  | case3 a b => exact decodeLast_two a b offset
  | case4 a b c rest ih =>
    by_cases last : rest = []
    · subst last
      exact decodeLast_three a b c offset
    obtain ⟨next, others, split⟩ := List.exists_cons_of_ne_nil (encode_ne_nil last)
    obtain ⟨⟨one, two, three, four⟩, first, second, third⟩ := quartet a b c
    rw [split] at ih ⊢
    rw [decodeGroups, valueAt_symbol one, valueAt_symbol two, valueAt_symbol three,
      valueAt_symbol four, ih (offset + 4)]
    simp only [bind, Except.bind, first, second, third]

@[simp] theorem decode_encode (bytes : List UInt8) : decode (encode bytes) = .ok bytes := by
  rw [decode]
  cases ending : (encode bytes).getLast? with
  | none =>
    have nothing := List.getLast?_eq_none_iff.mp ending
    rw [← decodeGroups_encode bytes 0, nothing]
    rfl
  | some last =>
    obtain ⟨value, small, rfl⟩ := isSymbol_of_mem_encode (List.mem_of_getLast? ending)
    simp only [value?_symbol small, Option.isNone_some, Bool.false_eq_true, and_false, if_false]
    exact decodeGroups_encode bytes 0

end UmaGrant.Base64Url
