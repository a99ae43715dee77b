import UmaGrant.Text.Hex
import UmaGrant.Text.Utf8
/-! # Bytes that were written can be read

Reading undoes writing: hexadecimal digits give back the bytes, and the bytes of a text give back
the text. Synthetic identifiers rest on both.
-/

namespace UmaGrant

namespace Hex

theorem digit?_digit {value : Nat} (small : value < 16) : digit? (digit value) = some value := by
  have all : ∀ candidate < 16, digit? (digit candidate) = some candidate := by decide
  exact all value small

theorem digit_ne_colon {value : Nat} (small : value < 16) : digit value ≠ ':' := by
  have all : ∀ candidate < 16, digit candidate ≠ ':' := by decide
  exact all value small

@[simp] theorem decode?_encode (bytes : List UInt8) : decode? (encode bytes) = some bytes := by
  induction bytes with
  | nil => rfl
  | cons byte rest ih =>
    have bound := byte.toNat_lt
    have high := digit?_digit (show byte.toNat / 16 < 16 by omega)
    have low := digit?_digit (show byte.toNat % 16 < 16 by omega)
    have whole : byte.toNat / 16 * 16 + byte.toNat % 16 = byte.toNat := by omega
    simp only [encode, decode?, high, low, ih, whole, Nat.toUInt8_eq, UInt8.ofNat_toNat]

theorem length_of_decode? {text : List Char} {bytes : List UInt8} (read : decode? text = some bytes) :
    text.length = 2 * bytes.length := by
  fun_induction decode? text generalizing bytes with
  | case1 =>
    cases read
    rfl
  | case2 => cases read
  | case3 high low rest h l decoded more _ _ ih =>
    cases read
    rw [List.length_cons, List.length_cons, List.length_cons, ih more]
    omega
  | case4 => cases read

/-- Written bytes hold no colon, so that colons may stand between them. -/
theorem colon_notMem_encode (bytes : List UInt8) : ':' ∉ encode bytes := by
  induction bytes with
  | nil => simp [encode]
  | cons byte rest ih =>
    have bound := byte.toNat_lt
    have high := digit_ne_colon (show byte.toNat / 16 < 16 by omega)
    have low := digit_ne_colon (show byte.toNat % 16 < 16 by omega)
    simp [encode, ih, high.symm, low.symm]

end Hex

namespace Utf8

/-! ## One character at a time -/

private theorem tail_read (value : Nat) :
    isTail (0x80 + value % 64).toUInt8 = true ∧ tailBits (0x80 + value % 64).toUInt8 = value % 64 := by
  have bound : (0x80 + value % 64) % 256 = 0x80 + value % 64 := by omega
  simp only [isTail, tailBits, Nat.toUInt8_eq, UInt8.le_iff_toNat_le, UInt8.toNat_ofNat', bound,
    Bool.and_eq_true, decide_eq_true_eq, UInt8.reduceToNat]
  omega

/-- A leading byte that is not ASCII carries a marker on top of the highest bits of its character. -/
private theorem lead_read (marker value : Nat) (ascii : 0x80 ≤ marker) (bound : marker + value < 0x100) :
    ¬ (marker + value).toUInt8 < 0x80 ∧ (marker + value).toUInt8.toNat = marker + value := by
  have whole : (marker + value).toUInt8.toNat = marker + value := by
    simp only [Nat.toUInt8_eq, UInt8.toNat_ofNat']
    omega
  rw [UInt8.lt_iff_toNat_lt, whole]
  exact ⟨Nat.not_lt.mpr (Nat.le_add_right_of_le ascii), rfl⟩

private theorem range_read (low high byte : UInt8) :
    (low ≤ byte && byte ≤ high) = decide (low.toNat ≤ byte.toNat ∧ byte.toNat ≤ high.toNat) := by
  simp only [UInt8.le_iff_toNat_le, Bool.decide_and]

section Rows

variable {a b c d : UInt8} {rest : List UInt8}

private theorem decode?_one (ascii : a < 0x80) :
    decode? (a :: rest) = (decode? rest).map (Char.ofNat a.toNat :: ·) := by
  rw [decode?.eq_def]
  simp only [ascii, if_true]

private theorem decode?_two (notAscii : ¬ a < 0x80) (second : isTail b = true)
    (lead : (0xC2 ≤ a && a ≤ 0xDF) = true) :
    decode? (a :: b :: rest) =
      (decode? rest).map (Char.ofNat (a.toNat % 32 * 64 + tailBits b) :: ·) := by
  rw [decode?.eq_def]
  simp only [notAscii, second, lead]
  rfl

private theorem decode?_three (notAscii : ¬ a < 0x80) (second : isTail b = true)
    (third : isTail c = true) (notTwo : (0xC2 ≤ a && a ≤ 0xDF) = false)
    (lead : (0xE0 ≤ a && a ≤ 0xEF) = true) (code : Nat)
    (read : a.toNat % 16 * 4096 + tailBits b * 64 + tailBits c = code)
    (proper : 0x800 ≤ code ∧ code.isValidChar) :
    decode? (a :: b :: c :: rest) = (decode? rest).map (Char.ofNat code :: ·) := by
  rw [decode?.eq_def]
  simp only [notAscii, second, third, notTwo, lead, read, proper]
  rfl

private theorem decode?_four (notAscii : ¬ a < 0x80) (second : isTail b = true)
    (third : isTail c = true) (fourth : isTail d = true)
    (notTwo : (0xC2 ≤ a && a ≤ 0xDF) = false) (notThree : (0xE0 ≤ a && a ≤ 0xEF) = false)
    (lead : (0xF0 ≤ a && a ≤ 0xF4) = true) (code : Nat)
    (read : a.toNat % 8 * 262144 + tailBits b * 4096 + tailBits c * 64 + tailBits d = code)
    (proper : 0x10000 ≤ code ∧ code.isValidChar) :
    decode? (a :: b :: c :: d :: rest) = (decode? rest).map (Char.ofNat code :: ·) := by
  rw [decode?.eq_def]
  simp only [notAscii, second, third, fourth, notTwo, notThree, lead, read, proper]
  rfl

/-! A character that is cut off is none. -/

private theorem decode?_cut_one (notAscii : ¬ a < 0x80) : decode? [a] = none := by
  rw [decode?.eq_def]
  simp only [notAscii, if_false]

private theorem decode?_cut_two (notAscii : ¬ a < 0x80) (notTwo : (0xC2 ≤ a && a ≤ 0xDF) = false) :
    decode? [a, b] = none := by
  rw [decode?.eq_def]
  simp only [notAscii, notTwo, if_false, Bool.false_eq_true, ite_self]

private theorem decode?_cut_three (notAscii : ¬ a < 0x80) (notTwo : (0xC2 ≤ a && a ≤ 0xDF) = false)
    (notThree : (0xE0 ≤ a && a ≤ 0xEF) = false) : decode? [a, b, c] = none := by
  rw [decode?.eq_def]
  simp only [notAscii, notTwo, notThree, if_false, Bool.false_eq_true, ite_self]

variable {char : Char}

private theorem leadingChar?_one (whole : decode? [a] = some [char]) :
    leadingChar? (a :: rest) = some (char, 1) := by
  simp [leadingChar?, whole]

private theorem leadingChar?_two (notAscii : ¬ a < 0x80) (whole : decode? [a, b] = some [char]) :
    leadingChar? (a :: b :: rest) = some (char, 2) := by
  simp [leadingChar?, decode?_cut_one notAscii, whole]

private theorem leadingChar?_three (notAscii : ¬ a < 0x80)
    (notTwo : (0xC2 ≤ a && a ≤ 0xDF) = false) (whole : decode? [a, b, c] = some [char]) :
    leadingChar? (a :: b :: c :: rest) = some (char, 3) := by
  simp only [leadingChar?, List.findSome?_cons, List.take_succ_cons, List.take_zero,
    decode?_cut_one notAscii, decode?_cut_two notAscii notTwo, whole]

private theorem leadingChar?_four (notAscii : ¬ a < 0x80)
    (notTwo : (0xC2 ≤ a && a ≤ 0xDF) = false) (notThree : (0xE0 ≤ a && a ≤ 0xEF) = false)
    (whole : decode? [a, b, c, d] = some [char]) :
    leadingChar? (a :: b :: c :: d :: rest) = some (char, 4) := by
  simp only [leadingChar?, List.findSome?_cons, List.take_succ_cons, List.take_zero,
    decode?_cut_one notAscii, decode?_cut_two notAscii notTwo,
    decode?_cut_three notAscii notTwo notThree, whole]

end Rows

/-- The shortest form of a character is read back, whatever comes after it. -/
theorem decode?_encodeChar_append (char : Char) (rest : List UInt8) :
    decode? (encodeChar char ++ rest) = (decode? rest).map (char :: ·) := by
  -- The code of a character is no surrogate and lies below `U+110000`.
  have valid : char.toNat < 0xD800 ∨ 0xDFFF < char.toNat ∧ char.toNat < 0x110000 := char.valid
  have same : Char.ofNat char.toNat = char := Char.ofNat_toNat char
  simp only [encodeChar]
  generalize char.toNat = code at valid same ⊢
  obtain ⟨low, lowBits⟩ := tail_read code
  obtain ⟨middle, middleBits⟩ := tail_read (code / 64)
  obtain ⟨high, highBits⟩ := tail_read (code / 4096)
  by_cases one : code < 0x80
  · have whole : code.toUInt8.toNat = code := by
      simp only [Nat.toUInt8_eq, UInt8.toNat_ofNat']
      omega
    have ascii : code.toUInt8 < 0x80 := by rwa [UInt8.lt_iff_toNat_lt, whole]
    simp only [one, if_true, List.cons_append, List.nil_append]
    rw [decode?_one ascii, whole, same]
  by_cases two : code < 0x800
  · obtain ⟨notAscii, lead⟩ := lead_read 0xC0 (code / 64) (by omega) (by omega)
    simp only [one, two, if_true, if_false, List.cons_append, List.nil_append]
    rw [decode?_two notAscii low (by rw [range_read, lead]; simp; omega), lead, lowBits,
      show (0xC0 + code / 64) % 32 * 64 + code % 64 = code by omega, same]
  by_cases three : code < 0x10000
  · obtain ⟨notAscii, lead⟩ := lead_read 0xE0 (code / 4096) (by omega) (by omega)
    simp only [one, two, three, if_true, if_false, List.cons_append, List.nil_append]
    rw [decode?_three notAscii middle low (by rw [range_read, lead]; simp; omega)
      (by rw [range_read, lead]; simp; omega) code (by omega) ⟨by omega, valid⟩, same]
  · obtain ⟨notAscii, lead⟩ :=
      lead_read 0xF0 (code / 262144) (by omega) (by omega)
    simp only [one, two, three, if_false, List.cons_append, List.nil_append]
    rw [decode?_four notAscii high middle low (by rw [range_read, lead]; simp; omega)
      (by rw [range_read, lead]; simp; omega) (by rw [range_read, lead]; simp; omega)
      code (by omega) ⟨by omega, valid⟩, same]

private theorem decode?_encodeChar (char : Char) : decode? (encodeChar char) = some [char] := by
  have read := decode?_encodeChar_append char []
  rwa [List.append_nil] at read

/-- The character in front of a text is found, however much text comes after it. -/
private theorem leadingChar?_encodeChar_append (char : Char) (rest : List UInt8) :
    leadingChar? (encodeChar char ++ rest) = some (char, (encodeChar char).length) := by
  have whole := decode?_encodeChar char
  have valid : char.toNat < 0xD800 ∨ 0xDFFF < char.toNat ∧ char.toNat < 0x110000 := char.valid
  simp only [encodeChar] at whole ⊢
  generalize char.toNat = code at whole valid ⊢
  by_cases one : code < 0x80
  · simp only [one, if_true] at whole ⊢
    exact leadingChar?_one whole
  by_cases two : code < 0x800
  · obtain ⟨notAscii, _⟩ := lead_read 0xC0 (code / 64) (by omega) (by omega)
    simp only [one, two, if_true, if_false] at whole ⊢
    exact leadingChar?_two notAscii whole
  by_cases three : code < 0x10000
  · obtain ⟨notAscii, lead⟩ := lead_read 0xE0 (code / 4096) (by omega) (by omega)
    simp only [one, two, three, if_true, if_false] at whole ⊢
    exact leadingChar?_three notAscii (by rw [range_read, lead]; simp; omega) whole
  · obtain ⟨notAscii, lead⟩ := lead_read 0xF0 (code / 262144) (by omega) (by omega)
    simp only [one, two, three, if_false] at whole ⊢
    exact leadingChar?_four notAscii (by rw [range_read, lead]; simp; omega)
      (by rw [range_read, lead]; simp; omega) whole

/-! ## Texts -/

theorem length_le_size (chars : List Char) : chars.length ≤ size chars := by
  have grown : ∀ total, total + chars.length ≤
      chars.foldl (fun total char => total + width char) total := by
    induction chars with
    | nil => exact fun _ => Nat.le_refl _
    | cons char rest ih =>
      intro total
      have wide : 1 ≤ width char := by
        unfold width
        grind
      have more := ih (total + width char)
      rw [List.length_cons, List.foldl_cons]
      omega
  simpa [size] using grown 0

/-- Every character of a text takes a byte at least. -/
theorem length_le_of_decode? {bytes : List UInt8} {chars : List Char}
    (read : decode? bytes = some chars) : chars.length ≤ bytes.length := by
  fun_induction decode? bytes generalizing chars with
  | case1 =>
    cases read
    exact Nat.le_refl _
  | _ =>
    -- The other rows either fail or read the rest and put one character in front.
    simp only [Option.map_eq_some_iff, reduceCtorEq] at read
    try
      obtain ⟨more, found, rfl⟩ := read
      have shorter := ‹∀ {chars : List Char}, decode? _ = some chars → _› found
      simp only [List.length_cons]
      omega

theorem decode?_encode (chars : List Char) : decode? (encode chars) = some chars := by
  induction chars with
  | nil => rfl
  | cons char rest ih =>
    simp only [encode, List.flatMap_cons] at ih ⊢
    rw [decode?_encodeChar_append, ih, Option.map_some]

private theorem encodeChar_ne_nil (char : Char) : encodeChar char ≠ [] := by
  simp only [encodeChar]
  split
  · exact List.cons_ne_nil _ _
  · split
    · exact List.cons_ne_nil _ _
    · split <;> exact List.cons_ne_nil _ _

/-- Scanning a text finds its characters and no stray bytes. -/
@[simp] theorem scan_encode (chars : List Char) : scan (encode chars) = chars.map some := by
  induction chars with
  | nil =>
    rw [encode, List.flatMap_nil, scan]
    rfl
  | cons char rest ih =>
    have leading := leadingChar?_encodeChar_append char (encode rest)
    obtain ⟨first, more, split⟩ := List.exists_cons_of_ne_nil (encodeChar_ne_nil char)
    change scan (encodeChar char ++ encode rest) = _
    rw [split, List.cons_append] at leading ⊢
    rw [scan, leading]
    dsimp only
    rw [List.length_cons, Nat.add_sub_cancel, List.drop_left, ih, List.map_cons]

/-- Bytes of ASCII that are taken for characters are the bytes of these characters. -/
theorem ofString_ofBytes {bytes : List UInt8} (ascii : ∀ byte ∈ bytes, byte.toNat < 0x80) :
    ofString (String.ofList (bytes.map fun byte => Char.ofNat byte.toNat)) = bytes := by
  rw [ofString, String.toList_ofList]
  induction bytes with
  | nil => rfl
  | cons byte rest ih =>
    have small := ascii byte List.mem_cons_self
    have all : ∀ candidate < 0x80, (Char.ofNat candidate).toNat = candidate := by decide
    have code := all byte.toNat small
    have more := ih fun other member => ascii other (List.mem_cons_of_mem _ member)
    have here : encodeChar (Char.ofNat byte.toNat) = [byte] := by
      simp only [encodeChar, code, small, if_true, Nat.toUInt8_eq, UInt8.ofNat_toNat]
    change encodeChar _ ++ encode _ = _
    rw [here, more]
    rfl

@[simp] theorem toString?_ofString (text : String) : toString? (ofString text) = some text := by
  simp [toString?, ofString, decode?_encode]

end Utf8

end UmaGrant
