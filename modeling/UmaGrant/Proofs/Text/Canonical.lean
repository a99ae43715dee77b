import UmaGrant.Proofs.Text.Encodings
/-! # Bytes that are read were written

Of hexadecimal digits and of UTF-8 nothing is read but what writing yields. Digits may stand in either
case, and in lower case they are the written ones. The bytes of a text can only be its own.
-/

namespace UmaGrant

namespace Hex

/-- A character, with a hexadecimal digit in lower case. -/
def lowered (char : Char) : Char := if 'A' ≤ char ∧ char ≤ 'F' then char.toLower else char

private theorem ascii_of_le {char last : Char} (bounded : char ≤ last) (ascii : last.toNat < 0x80) :
    char.toNat < 0x80 := Nat.lt_of_le_of_lt bounded ascii

/-- A digit has the same value in either case. -/
theorem digit?_lowered (char : Char) : digit? (lowered char) = digit? char := by
  by_cases upper : 'A' ≤ char ∧ char ≤ 'F'
  · have all : ∀ code < 0x80, digit? (lowered (Char.ofNat code)) = digit? (Char.ofNat code) := by
      decide
    have same := all char.toNat (ascii_of_le upper.2 (by decide))
    rwa [Char.ofNat_toNat] at same
  · rw [lowered, if_neg upper]

private theorem ascii_of_digit? {char : Char} {value : Nat} (read : digit? char = some value) :
    char.toNat < 0x80 := by
  unfold digit? at read
  split at read
  case isTrue decimal => exact ascii_of_le decimal.2 (by decide)
  split at read
  case isTrue lower => exact ascii_of_le lower.2 (by decide)
  split at read
  case isTrue upper => exact ascii_of_le upper.2 (by decide)
  case isFalse => cases read

/-- A digit in lower case is the one that is written for its value. -/
theorem lowered_of_digit? {char : Char} {value : Nat} (read : digit? char = some value) :
    value < 16 ∧ lowered char = digit value := by
  have all : ∀ code < 0x80, ∀ value, digit? (Char.ofNat code) = some value →
      value < 16 ∧ lowered (Char.ofNat code) = digit value := by
    decide
  have written := all char.toNat (ascii_of_digit? read) value
  rw [Char.ofNat_toNat] at written
  exact written read

/-- No other character becomes a colon. -/
theorem lowered_eq_colon_iff {char : Char} : lowered char = ':' ↔ char = ':' := by
  by_cases upper : 'A' ≤ char ∧ char ≤ 'F'
  · have all : ∀ code < 0x80, 'A' ≤ Char.ofNat code ∧ Char.ofNat code ≤ 'F' →
        (lowered (Char.ofNat code) = ':' ↔ Char.ofNat code = ':') := by
      decide
    have same := all char.toNat (ascii_of_le upper.2 (by decide))
    rw [Char.ofNat_toNat] at same
    exact same upper
  · rw [lowered, if_neg upper]

/-- Digits are read alike in either case. -/
theorem decode?_map_lowered (text : List Char) : decode? (text.map lowered) = decode? text := by
  fun_induction decode? text with
  | case1 => rfl
  | case2 => rfl
  | case3 high low rest h l bytes more readHigh readLow ih =>
    simp only [List.map_cons, decode?, digit?_lowered, ih, more, readHigh, readLow]
  | case4 high low rest fails ih => simp only [List.map_cons, decode?, digit?_lowered, ih]

/-- Digits are read as bytes if and only if in lower case they are what is written for these. -/
theorem decode?_eq_some_iff {text : List Char} {bytes : List UInt8} :
    decode? text = some bytes ↔ text.map lowered = encode bytes := by
  constructor
  · intro read
    fun_induction decode? text generalizing bytes with
    | case1 =>
      cases read
      rfl
    | case2 => cases read
    | case3 high low rest h l decoded more readHigh readLow ih =>
      cases read
      obtain ⟨smallHigh, highWritten⟩ := lowered_of_digit? readHigh
      obtain ⟨smallLow, lowWritten⟩ := lowered_of_digit? readLow
      have whole : (h * 16 + l).toUInt8.toNat = h * 16 + l := by
        simp only [Nat.toUInt8_eq, UInt8.toNat_ofNat']
        omega
      have upper : (h * 16 + l) / 16 = h := by omega
      have lower : (h * 16 + l) % 16 = l := by omega
      rw [List.map_cons, List.map_cons, encode, whole, upper, lower, highWritten, lowWritten, ih more]
    | case4 => cases read
  · intro written
    rw [← decode?_map_lowered, written, decode?_encode]

end Hex

namespace Utf8

/-! ## Characters -/

private theorem toNat_ofNat {code : Nat} (valid : code.isValidChar) :
    (Char.ofNat code).toNat = code := by
  rw [Char.ofNat, dif_pos valid]
  rfl

private theorem toUInt8_eq (byte : UInt8) {value : Nat} (same : value = byte.toNat) :
    value.toUInt8 = byte := by
  rw [same, Nat.toUInt8_eq, UInt8.ofNat_toNat]

/-- A continuing byte carries its six bits under a marker. -/
private theorem of_isTail {byte : UInt8} (tail : isTail byte = true) :
    byte.toNat = 0x80 + tailBits byte ∧ tailBits byte < 64 := by
  simp only [isTail, Bool.and_eq_true, decide_eq_true_eq, UInt8.le_iff_toNat_le,
    UInt8.reduceToNat] at tail
  unfold tailBits
  omega

private theorem of_range {low high byte : UInt8} (within : (low ≤ byte && byte ≤ high) = true) :
    low.toNat ≤ byte.toNat ∧ byte.toNat ≤ high.toNat := by
  simpa only [UInt8.le_iff_toNat_le, Bool.and_eq_true, decide_eq_true_eq] using within

section Rows

variable {a b c d : UInt8}

private theorem encodeChar_one (ascii : a < 0x80) : encodeChar (Char.ofNat a.toNat) = [a] := by
  have small : a.toNat < 0x80 := ascii
  rw [encodeChar, toNat_ofNat (.inl (by omega)), if_pos small, toUInt8_eq a rfl]

private theorem encodeChar_two (lead : (0xC2 ≤ a && a ≤ 0xDF) = true) (second : isTail b = true) :
    encodeChar (Char.ofNat (a.toNat % 32 * 64 + tailBits b)) = [a, b] := by
  obtain ⟨low, high⟩ := of_range lead
  obtain ⟨middle, six⟩ := of_isTail second
  change 194 ≤ a.toNat at low
  change a.toNat ≤ 223 at high
  rw [encodeChar, toNat_ofNat (.inl (by omega)), if_neg (by omega), if_pos (by omega),
    toUInt8_eq a (by omega), toUInt8_eq b (by omega)]

private theorem encodeChar_three (lead : (0xE0 ≤ a && a ≤ 0xEF) = true) (second : isTail b = true)
    (third : isTail c = true)
    (proper : 0x800 ≤ a.toNat % 16 * 4096 + tailBits b * 64 + tailBits c ∧
      (a.toNat % 16 * 4096 + tailBits b * 64 + tailBits c).isValidChar) :
    encodeChar (Char.ofNat (a.toNat % 16 * 4096 + tailBits b * 64 + tailBits c)) = [a, b, c] := by
  obtain ⟨low, high⟩ := of_range lead
  obtain ⟨middle, six⟩ := of_isTail second
  obtain ⟨last, sixToo⟩ := of_isTail third
  change 224 ≤ a.toNat at low
  change a.toNat ≤ 239 at high
  rw [encodeChar, toNat_ofNat proper.2, if_neg (by omega), if_neg (by omega), if_pos (by omega),
    toUInt8_eq a (by omega), toUInt8_eq b (by omega), toUInt8_eq c (by omega)]

private theorem encodeChar_four (lead : (0xF0 ≤ a && a ≤ 0xF4) = true) (second : isTail b = true)
    (third : isTail c = true) (fourth : isTail d = true)
    (proper : 0x10000 ≤ a.toNat % 8 * 262144 + tailBits b * 4096 + tailBits c * 64 + tailBits d ∧
      (a.toNat % 8 * 262144 + tailBits b * 4096 + tailBits c * 64 + tailBits d).isValidChar) :
    encodeChar (Char.ofNat
        (a.toNat % 8 * 262144 + tailBits b * 4096 + tailBits c * 64 + tailBits d)) =
      [a, b, c, d] := by
  obtain ⟨low, high⟩ := of_range lead
  obtain ⟨middle, six⟩ := of_isTail second
  obtain ⟨later, sixToo⟩ := of_isTail third
  obtain ⟨last, sixAgain⟩ := of_isTail fourth
  change 240 ≤ a.toNat at low
  change a.toNat ≤ 244 at high
  rw [encodeChar, toNat_ofNat proper.2, if_neg (by omega), if_neg (by omega), if_neg (by omega),
    toUInt8_eq a (by omega), toUInt8_eq b (by omega), toUInt8_eq c (by omega),
    toUInt8_eq d (by omega)]

end Rows

/-! ## Texts -/

private theorem encode_cons (char : Char) (rest : List Char) :
    encode (char :: rest) = encodeChar char ++ encode rest := List.flatMap_cons

/-- Bytes are read as a text if and only if they are the bytes of this text. -/
theorem decode?_eq_some_iff {bytes : List UInt8} {chars : List Char} :
    decode? bytes = some chars ↔ bytes = encode chars := by
  constructor
  · intro read
    -- Each row that succeeds puts one character in front of what the rest is read as.
    fun_induction decode? bytes generalizing chars with
    | case1 =>
      cases read
      rfl
    | case2 a rest ascii ih =>
      obtain ⟨more, found, rfl⟩ := Option.map_eq_some_iff.mp read
      rw [encode_cons, encodeChar_one ascii, ih found]
      rfl
    | case5 a notAscii b rest second lead ih =>
      obtain ⟨more, found, rfl⟩ := Option.map_eq_some_iff.mp read
      rw [encode_cons, encodeChar_two lead (by simpa using second), ih found]
      rfl
    | case8 a notAscii b second notTwo c rest third lead code proper =>
      rename_i ih
      obtain ⟨more, found, rfl⟩ := Option.map_eq_some_iff.mp read
      rw [encode_cons, encodeChar_three lead (by simpa using second) (by simpa using third) proper,
        ih found]
      rfl
    | case12 a notAscii b second notTwo c third notThree d rest fourth lead code proper =>
      rename_i ih
      obtain ⟨more, found, rfl⟩ := Option.map_eq_some_iff.mp read
      rw [encode_cons, encodeChar_four lead (by simpa using second) (by simpa using third)
        (by simpa using fourth) proper, ih found]
      rfl
    | _ => cases read
  · rintro rfl
    exact decode?_encode chars

end Utf8

end UmaGrant
