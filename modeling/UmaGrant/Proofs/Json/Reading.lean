import UmaGrant.Json.Parser
import UmaGrant.Json.Printer
import UmaGrant.Proofs.Dict
import UmaGrant.Proofs.Supply
import UmaGrant.Proofs.Text.Encodings
/-! # Compact JSON can be read

Reading undoes printing for all values without doubles that a text can hold: whole numbers in range,
objects with their members in order, and not too many levels.
-/

namespace UmaGrant.JsonText

open Json (escapeChar quoted compact compactItems compactMembers)

/-! ## Strings -/

/-- Control characters are written as four hexadecimal digits. -/
private theorem fourDigits_control {code : Nat} (control : code < 0x20) (rest : List Char) :
    fourDigits (Hex.ofNat 4 code ++ rest) = .ok (code, rest) := by
  have all : ∀ candidate < 0x20, (Hex.ofNat 4 candidate).length = 4 := by decide
  have length := all code control
  have read := Hex.toNat?_ofNat 4 code
  generalize Hex.ofNat 4 code = digits at length read ⊢
  match digits, length with
  | [a, b, c, d], _ =>
    have room := Utf8.length_le_size ([a, b, c, d] ++ rest)
    have enough : ¬ Utf8.size ([a, b, c, d] ++ rest) < 4 := by
      rw [List.length_append, List.length_cons, List.length_cons, List.length_cons,
        List.length_cons] at room
      omega
    unfold fourDigits
    rw [if_neg enough]
    simp only [List.cons_append, List.nil_append, read]

/-- A written character is read as that character, whatever comes after it. -/
private theorem stringBody_escapeChar (char : Char) (fuel : Nat) (rest : List Char) :
    stringBody (fuel + 1) (escapeChar char ++ rest) =
      (stringBody fuel rest).map fun read => (char :: read.1, read.2) := by
  have onward : ∀ read,
      (stringBody fuel rest >>= fun found => .ok (read :: found.1, found.2)) =
        (stringBody fuel rest).map fun found => (read :: found.1, found.2) := by
    intro read
    cases stringBody fuel rest <;> rfl
  unfold escapeChar
  by_cases quote : char = '"'
  · rw [if_pos quote, quote]
    exact onward '"'
  rw [if_neg quote]
  by_cases backslash : char = '\\'
  · rw [if_pos backslash, backslash]
    exact onward '\\'
  rw [if_neg backslash]
  by_cases backspace : char = '\x08'
  · rw [if_pos backspace, backspace]
    exact onward '\x08'
  rw [if_neg backspace]
  by_cases feed : char = '\x0c'
  · rw [if_pos feed, feed]
    exact onward '\x0c'
  rw [if_neg feed]
  by_cases newline : char = '\n'
  · rw [if_pos newline, newline]
    exact onward '\n'
  rw [if_neg newline]
  by_cases carriage : char = '\r'
  · rw [if_pos carriage, carriage]
    exact onward '\r'
  rw [if_neg carriage]
  by_cases tab : char = '\t'
  · rw [if_pos tab, tab]
    exact onward '\t'
  rw [if_neg tab]
  by_cases control : char.toNat < 0x20
  · have read : escape ('u' :: (Hex.ofNat 4 char.toNat ++ rest)) = .ok (char, rest) := by
      have trailing : isTrailingHalf char.toNat = false := by
        simp [isTrailingHalf]
        omega
      have leading : isLeadingHalf char.toNat = false := by
        simp [isLeadingHalf]
        omega
      change unicodeEscape (Hex.ofNat 4 char.toNat ++ rest) = _
      rw [unicodeEscape, fourDigits_control control]
      simp only [bind, Except.bind, trailing, leading, Char.ofNat_toNat]
      rfl
    rw [if_pos control]
    change (escape ('u' :: (Hex.ofNat 4 char.toNat ++ rest)) >>= _) = _
    rw [read]
    exact onward char
  · rw [if_neg control, List.cons_append, List.nil_append, stringBody, if_neg quote,
      if_neg backslash, if_neg control]
    exact onward char

private theorem stringBody_escaped (text rest : List Char) {fuel : Nat} (enough : text.length < fuel) :
    stringBody fuel (text.flatMap escapeChar ++ '"' :: rest) = .ok (text, rest) := by
  induction text generalizing fuel with
  | nil =>
    obtain ⟨fuel, rfl⟩ := Nat.exists_eq_add_one_of_ne_zero (Nat.ne_of_gt enough)
    rfl
  | cons char more ih =>
    obtain ⟨fuel, rfl⟩ := Nat.exists_eq_add_one_of_ne_zero (Nat.ne_of_gt (Nat.zero_lt_of_lt enough))
    rw [List.flatMap_cons, List.append_assoc, stringBody_escapeChar,
      ih (Nat.lt_of_succ_lt_succ enough)]
    rfl

private theorem length_le_escaped (text : List Char) :
    text.length ≤ (text.flatMap escapeChar).length := by
  induction text with
  | nil => exact Nat.le_refl _
  | cons char rest ih =>
    have wide : 1 ≤ (escapeChar char).length := by
      unfold escapeChar
      grind
    rw [List.flatMap_cons, List.length_append, List.length_cons]
    omega

/-- A written string is read, of which the opening quote is read. -/
theorem stringRest_escaped (text : String) (rest : List Char) :
    stringRest (text.toList.flatMap escapeChar ++ '"' :: rest) = .ok (text, rest) := by
  have enough : text.toList.length <
      (text.toList.flatMap escapeChar ++ '"' :: rest).length + 1 := by
    have short := length_le_escaped text.toList
    rw [List.length_append]
    omega
  rw [stringRest, stringBody_escaped _ _ enough]
  simp only [bind, Except.bind, String.ofList_toList]

theorem quoted_append (text : String) (rest : List Char) :
    quoted text ++ rest = '"' :: (text.toList.flatMap escapeChar ++ '"' :: rest) := by
  simp [quoted]

/-! ## Numbers -/

/-- Whether a text can stand behind a value in compact text: it is empty, or goes on with a comma or a
closing bracket. -/
def Closes (rest : List Char) : Prop :=
  ∀ char more, rest = char :: more → char = ',' ∨ char = ']' ∨ char = '\x7d'

theorem closes_comma (rest : List Char) : Closes (',' :: rest) := by
  rintro char more ⟨⟩
  exact .inl rfl

theorem closes_bracket (rest : List Char) : Closes (']' :: rest) := by
  rintro char more ⟨⟩
  exact .inr (.inl rfl)

theorem closes_brace (rest : List Char) : Closes ('\x7d' :: rest) := by
  rintro char more ⟨⟩
  exact .inr (.inr rfl)

private theorem Closes.notDigit {char : Char} {more : List Char} (closes : Closes (char :: more)) :
    char.isDigit = false := by
  rcases closes char more rfl with rfl | rfl | rfl <;> rfl

private theorem le_ofDigitChars (digits : List Char) (start : Nat) :
    start ≤ Nat.ofDigitChars 10 digits start := by
  induction digits generalizing start with
  | nil => exact Nat.le_refl _
  | cons digit rest ih =>
    rw [Nat.ofDigitChars_cons]
    have more := ih (10 * start + (digit.toNat - '0'.toNat))
    omega

private theorem addDigits_closes {rest : List Char} (closes : Closes rest) (significand count : Nat) :
    addDigits significand count rest = (significand, count, rest) := by
  cases rest with
  | nil => rfl
  | cons char more => simp [addDigits, closes.notDigit]

private theorem dropDigits_closes {rest : List Char} (closes : Closes rest) (count : Nat) :
    dropDigits count rest = (count, rest) := by
  cases rest with
  | nil => rfl
  | cons char more => simp [dropDigits, closes.notDigit]

/-- Digits are added up to the number that they stand for, if that is in range. -/
private theorem addDigits_digits {digits rest : List Char} (closes : Closes rest)
    (allDigits : ∀ digit ∈ digits, digit.isDigit = true) {significand : Nat} (count : Nat)
    (small : Nat.ofDigitChars 10 digits significand < Nat.pow 2 64) :
    addDigits significand count (digits ++ rest) =
      (Nat.ofDigitChars 10 digits significand, count + digits.length, rest) := by
  induction digits generalizing significand count with
  | nil => exact addDigits_closes closes significand count
  | cons digit others ih =>
    obtain ⟨isDigit, othersDigits⟩ := List.forall_mem_cons.mp allDigits
    rw [Nat.ofDigitChars_cons, Nat.mul_comm] at small
    have within : significand * 10 + digitValue digit < Nat.pow 2 64 :=
      Nat.lt_of_le_of_lt (le_ofDigitChars others _) small
    rw [List.cons_append, addDigits, if_pos ⟨isDigit, within⟩, Nat.ofDigitChars_cons, Nat.mul_comm 10,
      List.length_cons, Nat.add_comm others.length, ← Nat.add_assoc]
    exact ih othersDigits (count + 1) small

/-- Neither a fraction nor an exponent follows. -/
private theorem afterWhole_closes {rest : List Char} (closes : Closes rest) (negative : Bool)
    (significand : Nat) :
    afterWhole negative significand rest =
      if !negative then .ok (.integer significand, rest)
      else if significand = 0 ∨ Nat.pow 2 63 < significand then
        scaledNumber true significand 0 rest
      else .ok (.integer (-significand), rest) := by
  unfold afterWhole
  split
  case h_4 => rfl
  all_goals rcases closes _ _ rfl with same | same | same <;> cases same

private theorem afterWhole_positive {rest : List Char} (closes : Closes rest) (significand : Nat) :
    afterWhole false significand rest = .ok (.integer significand, rest) :=
  afterWhole_closes closes false significand

private theorem afterWhole_negative {rest : List Char} (closes : Closes rest) {significand : Nat}
    (positive : significand ≠ 0) (small : significand ≤ Nat.pow 2 63) :
    afterWhole true significand rest = .ok (.integer (-significand), rest) :=
  (afterWhole_closes closes true significand).trans
    (if_neg (not_or.mpr ⟨positive, Nat.not_lt.mpr small⟩))

/-- The digits of a positive number do not start with a zero. -/
private theorem toDigits_positive {value : Nat} (positive : 0 < value) :
    ∃ first more, Nat.toDigits 10 value = first :: more ∧ first ≠ '0' := by
  induction value using Nat.strongRecOn with
  | ind value ih =>
    rw [Nat.toDigits_eq_if (by decide)]
    by_cases small : value < 10
    · have all : ∀ candidate < 10, 0 < candidate → candidate.digitChar ≠ '0' := by decide
      rw [if_pos small]
      exact ⟨_, _, rfl, all value small positive⟩
    · obtain ⟨first, more, split, differs⟩ := ih (value / 10) (by omega) (by omega)
      rw [if_neg small, split]
      exact ⟨first, more ++ _, rfl, differs⟩

/-- The digits of a number in range are read up to what may follow them. -/
private theorem number_toDigits {rest : List Char} (closes : Closes rest) (negative : Bool) {value : Nat}
    (positive : 0 < value) (small : value < Nat.pow 2 64) :
    number negative (Nat.toDigits 10 value ++ rest) = afterWhole negative value rest := by
  have allDigits : ∀ digit ∈ Nat.toDigits 10 value, digit.isDigit = true :=
    fun digit member => Nat.isDigit_of_mem_toDigits (by decide) (by decide) member
  have whole : Nat.ofDigitChars 10 (Nat.toDigits 10 value) 0 = value :=
    Nat.ofDigitChars_toDigits (by decide) (by decide)
  obtain ⟨first, more, split, differs⟩ := toDigits_positive positive
  rw [split] at allDigits whole ⊢
  obtain ⟨isDigit, moreDigits⟩ := List.forall_mem_cons.mp allDigits
  rw [Nat.ofDigitChars_cons, Nat.mul_zero, Nat.zero_add] at whole
  have added : addDigits (digitValue first) 0 (more ++ rest) = _ :=
    addDigits_digits closes moreDigits 0 (by rw [digitValue, whole]; exact small)
  rw [List.cons_append, number.eq_def]
  dsimp only
  rw [if_neg differs, if_pos isDigit, added]
  dsimp only
  rw [dropDigits_closes closes, digitValue, whole]
  rfl

private theorem number_zero {rest : List Char} (closes : Closes rest) :
    number false ('0' :: rest) = .ok (.integer 0, rest) := by
  rw [number.eq_def]
  cases rest with
  | nil => rfl
  | cons char more =>
    simp only [closes.notDigit]
    exact afterWhole_positive closes 0

/-! ## Values -/

/-- Whether a value comes back as it is when its text is read in a place where so many levels may be
opened. -/
inductive Readable : Nat → Json → Prop
  | null {depth : Nat} : Readable depth .null
  | bool {depth : Nat} (value : Bool) : Readable depth (.bool value)
  | integer {depth : Nat} {value : Int} (low : -Int.pow 2 63 ≤ value) (high : value < Int.pow 2 64) :
      Readable depth (.int value)
  | string {depth : Nat} (text : String) : Readable depth (.string text)
  | array {depth : Nat} {items : List Json} (each : ∀ item ∈ items, Readable (depth + 1) item) :
      Readable (depth + 2) (.array items)
  | object {depth : Nat} {members : List (String × Json)}
      (ordered : (members.map (·.1)).Pairwise (· < ·))
      (each : ∀ member ∈ members, Readable (depth + 1) member.2) :
      Readable (depth + 2) (.object members)

/-- Whether the text of a value is read as that value, whatever may come after it. -/
def Reads (depth : Nat) (json : Json) : Prop :=
  ∀ fuel rest, Closes rest → 2 * (compact json ++ rest).length ≤ fuel →
    value fuel depth (compact json ++ rest) = .ok (json, rest)

/-- A text that is not empty leaves a unit of fuel. -/
private theorem reads_of_succ {depth : Nat} {json : Json} (nonempty : compact json ≠ [])
    (read : ∀ fuel rest, Closes rest →
      value (fuel + 1) depth (compact json ++ rest) = .ok (json, rest)) : Reads depth json := by
  intro fuel rest closes enough
  have long := List.length_pos_iff.mpr nonempty
  rw [List.length_append] at enough
  obtain ⟨fuel, rfl⟩ := Nat.exists_eq_add_one_of_ne_zero (show fuel ≠ 0 by omega)
  exact read fuel rest closes

private theorem skipBlanks_cons {char : Char} (shown : isBlank char = false) (rest : List Char) :
    skipBlanks (char :: rest) = char :: rest := by
  rw [skipBlanks, List.dropWhile_cons_of_neg (by rw [shown]; exact Bool.false_ne_true)]

private theorem not_isBlank_of_isDigit {char : Char} (isDigit : char.isDigit = true) :
    isBlank char = false := by
  rw [← Bool.not_eq_true, isBlank]
  intro blank
  simp only [Bool.or_eq_true, decide_eq_true_eq] at blank
  rcases blank with ((rfl | rfl) | rfl) | rfl <;> cases isDigit

/-- A value that starts with a digit is a number. -/
private theorem value_digit {char : Char} (isDigit : char.isDigit = true) (fuel depth : Nat)
    (rest : List Char) :
    value (fuel + 1) depth (char :: rest) =
      (number false (char :: rest)).map fun read => (.number read.1, read.2) := by
  rw [value, skipBlanks_cons (not_isBlank_of_isDigit isDigit)]
  dsimp only
  split
  case h_8 =>
    rw [if_pos isDigit]
    cases number false (char :: rest) <;> rfl
  all_goals cases isDigit

/-- The digits of a number are not blank, and none of them is a bracket. -/
private theorem toDigits_starts (value : Nat) :
    ∃ first more, Nat.toDigits 10 value = first :: more ∧ first.isDigit = true := by
  have allDigits : ∀ digit ∈ Nat.toDigits 10 value, digit.isDigit = true :=
    fun digit member => Nat.isDigit_of_mem_toDigits (by decide) (by decide) member
  obtain ⟨first, more, split⟩ :=
    List.exists_cons_of_ne_nil (Nat.toDigits_ne_nil : Nat.toDigits 10 value ≠ [])
  exact ⟨first, more, split, allDigits first (split ▸ List.mem_cons_self)⟩

private theorem reads_integer {depth : Nat} {value : Int} (low : -Int.pow 2 63 ≤ value)
    (high : value < Int.pow 2 64) : Reads depth (.int value) := by
  obtain ⟨first, more, split, isDigit⟩ := toDigits_starts value.natAbs
  have nonempty : Json.integerText value ≠ [] := by
    rw [Json.integerText, split]
    split <;> exact List.cons_ne_nil _ _
  refine reads_of_succ nonempty fun fuel rest closes => ?_
  change JsonText.value (fuel + 1) depth (Json.integerText value ++ rest) = _
  have bounds : Int.pow 2 63 = 9223372036854775808 ∧ Int.pow 2 64 = 18446744073709551616 ∧
      Nat.pow 2 63 = 9223372036854775808 ∧ Nat.pow 2 64 = 18446744073709551616 := by decide
  by_cases negative : value < 0
  · have back : -(value.natAbs : Int) = value := by omega
    have read : number true (Nat.toDigits 10 value.natAbs ++ rest) = .ok (.integer value, rest) := by
      rw [number_toDigits closes true (by omega) (by omega),
        afterWhole_negative closes (by omega) (by omega), back]
    rw [Json.integerText, if_pos negative, List.cons_append, JsonText.value,
      skipBlanks_cons rfl]
    dsimp only
    rw [read]
    rfl
  · have back : (value.natAbs : Int) = value := by omega
    have read : number false (Nat.toDigits 10 value.natAbs ++ rest) = .ok (.integer value, rest) := by
      by_cases zero : value = 0
      · subst zero
        exact number_zero closes
      · rw [number_toDigits closes false (by omega) (by omega), afterWhole_positive closes, back]
    rw [Json.integerText, if_neg negative]
    rw [split, List.cons_append] at read ⊢
    rw [value_digit isDigit, read]
    rfl

/-- The text of a value starts neither with a blank nor with a closing bracket. -/
private theorem compact_starts {depth : Nat} {json : Json} (readable : Readable depth json) :
    ∃ first more, compact json = first :: more ∧ isBlank first = false ∧ first ≠ ']' := by
  cases readable with
  | null => exact ⟨_, _, rfl, rfl, by decide⟩
  | bool value => cases value <;> exact ⟨_, _, rfl, rfl, by decide⟩
  | @integer _ amount low high =>
    change ∃ first more, Json.integerText amount = first :: more ∧ _
    rw [Json.integerText]
    split
    · exact ⟨_, _, rfl, rfl, by decide⟩
    · obtain ⟨first, more, split, isDigit⟩ := toDigits_starts amount.natAbs
      refine ⟨first, more, split, not_isBlank_of_isDigit isDigit, ?_⟩
      rintro rfl
      cases isDigit
  | string text => exact ⟨_, _, rfl, rfl, by decide⟩
  | array each => exact ⟨_, _, rfl, rfl, by decide⟩
  | object ordered each => exact ⟨_, _, rfl, rfl, by decide⟩

private theorem reads_string (depth : Nat) (text : String) : Reads depth (.string text) := by
  refine reads_of_succ (List.cons_ne_nil _ _) fun fuel rest _ => ?_
  change JsonText.value (fuel + 1) depth (quoted text ++ rest) = _
  rw [quoted_append, value, skipBlanks_cons rfl]
  dsimp only
  rw [stringRest_escaped]
  rfl

/-! ## Arrays -/

private theorem compactItems_cons (first second : Json) (more : List Json) :
    compactItems (first :: second :: more) =
      compact first ++ ',' :: compactItems (second :: more) := by
  rw [compactItems]
  exact List.cons_ne_nil _ _

private theorem compactItems_starts (first : Json) (more : List Json) :
    ∃ tail, compactItems (first :: more) = compact first ++ tail := by
  cases more with
  | nil => exact ⟨_, rfl⟩
  | cons second more => exact ⟨_, compactItems_cons first second more⟩

/-- Behind a comma further items are read. -/
private theorem items_comma {fuel depth : Nat} {first next : Json} {chars more : List Char}
    {char : Char} {others : List Json} {rest : List Char}
    (read : value fuel depth chars = .ok (first, ',' :: char :: more))
    (shown : isBlank char = false) (notEnd : char ≠ ']')
    (onward : items fuel depth (char :: more) = .ok (next :: others, rest)) :
    items (fuel + 1) depth chars = .ok (first :: next :: others, rest) := by
  rw [items, read]
  simp only [bind, Except.bind, skipBlanks_cons shown, skipBlanks_cons (rfl : isBlank ',' = false)]
  split
  case h_1 ended => cases ended
  case h_2 ended => exact absurd (List.cons.inj ended).1 notEnd
  case h_3 => rw [onward]

/-- Items are read up to the closing bracket. -/
private theorem items_compactItems {depth : Nat} {items : List Json} (nonempty : items ≠ [])
    (each : ∀ item ∈ items, Readable depth item) (reads : ∀ item ∈ items, Reads depth item)
    {fuel : Nat} {rest : List Char} (enough : 2 * (compactItems items ++ rest).length + 1 ≤ fuel) :
    JsonText.items fuel depth (compactItems items ++ rest) = .ok (items, rest) := by
  induction items generalizing fuel with
  | nil => exact absurd rfl nonempty
  | cons first others ih =>
    obtain ⟨fuel, rfl⟩ := Nat.exists_eq_add_one_of_ne_zero (show fuel ≠ 0 by omega)
    have here := reads first List.mem_cons_self fuel
    cases others with
    | nil =>
      rw [compactItems, List.append_assoc, List.cons_append, List.nil_append] at enough ⊢
      have read := here (']' :: rest) (closes_bracket rest) (by omega)
      rw [JsonText.items, read]
      rfl
    | cons second more =>
      obtain ⟨_, eachMore⟩ := List.forall_mem_cons.mp each
      obtain ⟨_, readsMore⟩ := List.forall_mem_cons.mp reads
      obtain ⟨next, others, starts, shown, notEnd⟩ :=
        compact_starts (eachMore second List.mem_cons_self)
      obtain ⟨tail, split⟩ := compactItems_starts second more
      rw [compactItems_cons, List.append_assoc, List.cons_append] at enough ⊢
      have read := here (',' :: (compactItems (second :: more) ++ rest)) (closes_comma _) (by omega)
      have onward := @ih (List.cons_ne_nil _ _) eachMore readsMore fuel (by
        rw [List.length_append, List.length_cons] at enough
        omega)
      rw [split, starts, List.cons_append, List.cons_append] at read onward ⊢
      exact items_comma read shown notEnd onward

private theorem value_bracket (fuel depth : Nat) (chars : List Char) :
    value (fuel + 1) (depth + 2) ('[' :: chars) =
      match skipBlanks chars with
      | [] => stopAt .endInList []
      | ']' :: rest => .ok (.array [], rest)
      | other => (do
        let (items, rest) ← items fuel (depth + 1) other
        .ok (.array items, rest)) := by
  rw [value, skipBlanks_cons rfl]
  exact if_neg (by omega)

private theorem reads_array {depth : Nat} {items : List Json}
    (each : ∀ item ∈ items, Readable (depth + 1) item)
    (reads : ∀ item ∈ items, Reads (depth + 1) item) : Reads (depth + 2) (.array items) := by
  intro fuel rest closes enough
  change value fuel (depth + 2) ('[' :: (compactItems items ++ rest)) = _
  change 2 * ((compactItems items ++ rest).length + 1) ≤ fuel at enough
  obtain ⟨fuel, rfl⟩ := Nat.exists_eq_add_one_of_ne_zero (show fuel ≠ 0 by omega)
  rw [value_bracket]
  cases items with
  | nil => rfl
  | cons first others =>
    obtain ⟨start, more, starts, shown, notEnd⟩ := compact_starts (each first List.mem_cons_self)
    obtain ⟨tail, joined⟩ := compactItems_starts first others
    have read := items_compactItems (List.cons_ne_nil _ _) each reads
      (show 2 * (compactItems (first :: others) ++ rest).length + 1 ≤ fuel by omega)
    rw [joined, starts, List.cons_append, List.cons_append] at read ⊢
    rw [skipBlanks_cons shown]
    split
    case h_1 ended => cases ended
    case h_2 ended => exact absurd (List.cons.inj ended).1 notEnd
    case h_3 =>
      rw [read]
      rfl

/-! ## Objects -/

private theorem compactMembers_cons (name : String) (first : Json) (second : String × Json)
    (more : List (String × Json)) :
    compactMembers ((name, first) :: second :: more) =
      quoted name ++ ':' :: compact first ++ ',' :: compactMembers (second :: more) := by
  rw [compactMembers]
  exact List.cons_ne_nil _ _

private theorem compactMembers_starts (first : String × Json) (more : List (String × Json)) :
    ∃ tail, compactMembers (first :: more) = '"' :: tail := by
  cases more with
  | nil => exact ⟨_, rfl⟩
  | cons second more => exact ⟨_, compactMembers_cons first.1 first.2 second more⟩

/-- A name and a colon are read, and then the value of the member. -/
private theorem members_name (name : String) (fuel depth : Nat) (chars : List Char) :
    members (fuel + 1) depth (quoted name ++ ':' :: chars) = (do
      let (member, rest) ← value fuel depth chars
      match skipBlanks rest with
      | [] => stopAt .endInObject []
      | '\x7d' :: rest => .ok ([(name, member)], rest)
      | ',' :: rest =>
        match skipBlanks rest with
        | [] => stopAt .endInValue []
        | '\x7d' :: rest => stopAfter .trailingComma ('\x7d' :: rest)
        | '"' :: rest => do
          let (more, rest) ← members fuel depth ('"' :: rest)
          .ok ((name, member) :: more, rest)
        | other => stopAfter .nameNotString other
      | other => stopAfter .expectedObjectEnd other) := by
  rw [quoted_append, members]
  dsimp only
  rw [stringRest_escaped]
  rfl

/-- Members are read up to the closing brace. -/
theorem members_compactMembers {depth : Nat} {found : List (String × Json)} (nonempty : found ≠ [])
    (reads : ∀ member ∈ found, Reads depth member.2) {fuel : Nat} {rest : List Char}
    (enough : 2 * (compactMembers found ++ rest).length + 1 ≤ fuel) :
    members fuel depth (compactMembers found ++ rest) = .ok (found, rest) := by
  induction found generalizing fuel with
  | nil => exact absurd rfl nonempty
  | cons first others ih =>
    obtain ⟨fuel, rfl⟩ := Nat.exists_eq_add_one_of_ne_zero (show fuel ≠ 0 by omega)
    obtain ⟨name, first⟩ := first
    obtain ⟨here, readsMore⟩ := List.forall_mem_cons.mp reads
    change Reads depth first at here
    cases others with
    | nil =>
      have shape : compactMembers [(name, first)] ++ rest =
          quoted name ++ ':' :: (compact first ++ '\x7d' :: rest) := by
        simp [compactMembers]
      rw [shape, List.length_append, List.length_cons] at enough
      rw [shape, members_name, here fuel ('\x7d' :: rest) (closes_brace rest) (by omega)]
      rfl
    | cons second more =>
      obtain ⟨tail, starts⟩ := compactMembers_starts second more
      have shape : compactMembers ((name, first) :: second :: more) ++ rest =
          quoted name ++ ':' :: (compact first ++ ',' :: (compactMembers (second :: more) ++ rest)) := by
        simp [compactMembers_cons]
      rw [shape, List.length_append, List.length_cons] at enough
      have read := here fuel _ (closes_comma (compactMembers (second :: more) ++ rest)) (by omega)
      rw [List.length_append, List.length_cons] at enough
      have onward := @ih (List.cons_ne_nil _ _) readsMore fuel (by omega)
      rw [shape, members_name, read]
      rw [starts, List.cons_append] at onward ⊢
      change (do
        let (more, rest) ← members fuel depth ('"' :: (tail ++ rest))
        .ok ((name, first) :: more, rest)) = _
      rw [onward]
      rfl

private theorem value_brace (fuel depth : Nat) (chars : List Char) :
    value (fuel + 1) (depth + 2) ('\x7b' :: chars) =
      match skipBlanks chars with
      | [] => stopAt .endInObject []
      | '\x7d' :: rest => .ok (.object [], rest)
      | other => (do
        let (found, rest) ← members fuel (depth + 1) other
        .ok (.object (Dict.ofList found).entries, rest)) := by
  rw [value, skipBlanks_cons rfl]
  exact if_neg (by omega)

/-- An object is read with its members put in order. -/
theorem value_object {depth fuel : Nat} {found : List (String × Json)} {rest : List Char}
    (reads : ∀ member ∈ found, Reads (depth + 1) member.2)
    (enough : 2 * (compact (.object found) ++ rest).length ≤ fuel) :
    value fuel (depth + 2) (compact (.object found) ++ rest) =
      .ok (.object (Dict.ofList found).entries, rest) := by
  change value fuel (depth + 2) ('\x7b' :: (compactMembers found ++ rest)) = _
  change 2 * ((compactMembers found ++ rest).length + 1) ≤ fuel at enough
  obtain ⟨fuel, rfl⟩ := Nat.exists_eq_add_one_of_ne_zero (show fuel ≠ 0 by omega)
  rw [value_brace]
  cases found with
  | nil => rfl
  | cons first others =>
    obtain ⟨tail, starts⟩ := compactMembers_starts first others
    have read := members_compactMembers (List.cons_ne_nil _ _) reads
      (show 2 * (compactMembers (first :: others) ++ rest).length + 1 ≤ fuel by omega)
    rw [starts, List.cons_append] at read ⊢
    rw [skipBlanks_cons rfl]
    change (do
      let (found, rest) ← members fuel (depth + 1) ('"' :: (tail ++ rest))
      .ok (Json.object (Dict.ofList found).entries, rest)) = _
    rw [read]
    rfl

/-- The text of a value is read as that value. -/
theorem Readable.reads {depth : Nat} {json : Json} (readable : Readable depth json) :
    Reads depth json := by
  induction readable with
  | null => exact reads_of_succ (List.cons_ne_nil _ _) fun _ _ _ => rfl
  | bool value =>
    cases value <;> exact reads_of_succ (List.cons_ne_nil _ _) fun _ _ _ => rfl
  | integer low high => exact reads_integer low high
  | string text => exact reads_string _ text
  | array each ih => exact reads_array each ih
  | object ordered each ih =>
    intro fuel rest closes enough
    rw [value_object ih enough, Dict.entries_ofList ordered]

/-! ## Whole texts -/

/-- Bytes that carry a text are read as the text is. -/
theorem readBytes_encode {α : Type} (reader : Reader α) (chars : List Char) :
    readBytes reader (Utf8.encode chars) = readAll reader chars := by
  have text : (chars.map some).map (·.getD '\x7f') = chars := by
    rw [List.map_map]
    exact List.map_id' chars
  have stray : (chars.map some).dropWhile Option.isSome = [] := by
    clear text
    induction chars with
    | nil => rfl
    | cons char rest ih => exact ih
  unfold readBytes
  simp only [Utf8.scan_encode, text, stray]
  rfl

theorem readAll_eq_ok {α : Type} {reader : Reader α} {chars : List Char} {result : α}
    (read : reader chars = .ok (result, [])) : readAll reader chars = .ok result := by
  rw [readAll, whole, read]
  rfl

/-- The text of an object is read as the object with its members in order. -/
theorem readBytes_object {found : List (String × Json)}
    (readable : ∀ member ∈ found, Readable 127 member.2) :
    readBytes (leadingValue 0) (Utf8.encode (compact (.object found))) =
      .ok (.ofMembers found) := by
  have read := value_object (fun member listed => (readable member listed).reads)
    (show 2 * (compact (.object found) ++ []).length ≤ fuelFor (compact (.object found)) by
      rw [List.append_nil, fuelFor]
      omega)
  rw [List.append_nil] at read
  rw [readBytes_encode]
  exact readAll_eq_ok read

end UmaGrant.JsonText
