import UmaGrant.Supply
/-! # Fresh identifiers differ

A number that is written in hexadecimal is read back, whatever its width. The dashes of an identifier
are not digits, so the number of an identifier is read off without them, and different numbers have
different identifiers.
-/

namespace UmaGrant

namespace Hex

/-- Reads one more digit of a number. -/
private def more (total : Option Nat) (char : Char) : Option Nat :=
  match total, digit? char with
  | some value, some next => some (value * 16 + next)
  | _, _ => none

private theorem more_digit {char : Char} {next : Nat} (digit : digit? char = some next) (total : Nat) :
    more (some total) char = some (total * 16 + next) := by
  simp only [more, digit]

private theorem toNat?_eq (chars : List Char) : toNat? chars = chars.foldl more (some 0) := rfl

private theorem digit?_digitChar {value : Nat} (small : value < 16) :
    digit? value.digitChar = some value := by
  have all : ∀ candidate < 16, digit? candidate.digitChar = some candidate := by decide
  exact all value small

private theorem toNat?_toDigits (value : Nat) : toNat? (Nat.toDigits 16 value) = some value := by
  induction value using Nat.strongRecOn with
  | ind value ih =>
    rw [Nat.toDigits_eq_if (by decide)]
    by_cases small : value < 16
    · rw [if_pos small, toNat?_eq, List.foldl_cons, List.foldl_nil,
        more_digit (digit?_digitChar small), Nat.zero_mul, Nat.zero_add]
    · have last := digit?_digitChar (Nat.mod_lt value (by decide : 0 < 16))
      have first := ih (value / 16) (by omega)
      rw [toNat?_eq] at first
      rw [if_neg small, toNat?_eq, List.foldl_append, first, List.foldl_cons, List.foldl_nil,
        more_digit last, Nat.div_add_mod']

private theorem foldl_more_zeros (count : Nat) :
    (List.replicate count '0').foldl more (some 0) = some 0 := by
  induction count with
  | zero => rfl
  | succ count ih => exact ih

/-- A number is read back, leading zeros or not. -/
@[simp] theorem toNat?_ofNat (width value : Nat) : toNat? (ofNat width value) = some value := by
  rw [toNat?_eq, ofNat, List.foldl_append, foldl_more_zeros]
  exact toNat?_toDigits value

private theorem foldl_more_none (chars : List Char) : chars.foldl more none = none := by
  induction chars with
  | nil => rfl
  | cons char rest ih => exact ih

/-- All characters of a text that is read as a number are digits. -/
theorem digit?_isSome_of_mem {chars : List Char} {value : Nat} (read : toNat? chars = some value)
    {char : Char} (member : char ∈ chars) : (digit? char).isSome = true := by
  obtain ⟨before, after, rfl⟩ := List.append_of_mem member
  rw [toNat?_eq, List.foldl_append, List.foldl_cons] at read
  cases digit : digit? char with
  | some _ => rfl
  | none =>
    have stuck : more (before.foldl more (some 0)) char = none := by
      unfold more
      rw [digit]
      split <;> simp_all
    rw [stuck, foldl_more_none] at read
    cases read

end Hex

namespace Fresh

private theorem filter_dash {digits : List Char} (plain : '-' ∉ digits) :
    digits.filter (· ≠ '-') = digits := by
  rw [List.filter_eq_self]
  intro char member
  exact decide_eq_true fun same => plain (same ▸ member)

private theorem filter_dash_cons (rest : List Char) :
    ('-' :: rest).filter (· ≠ '-') = rest.filter (· ≠ '-') := rfl

/-- The digits of an identifier, without the dashes between them. -/
private theorem digits_identifier (number : Nat) :
    (identifier number).toList.filter (· ≠ '-') = Hex.ofNat 32 number := by
  have plain : '-' ∉ Hex.ofNat 32 number := fun member => by
    have digit := Hex.digit?_isSome_of_mem (Hex.toNat?_ofNat 32 number) member
    cases digit
  have group : ∀ start count, '-' ∉ ((Hex.ofNat 32 number).drop start).take count :=
    fun start count member => plain (List.mem_of_mem_drop (List.mem_of_mem_take member))
  have joined : ∀ start count, ((Hex.ofNat 32 number).drop start).take count ++
      (Hex.ofNat 32 number).drop (start + count) = (Hex.ofNat 32 number).drop start := by
    intro start count
    rw [← List.drop_drop, List.take_append_drop]
  have last : '-' ∉ (Hex.ofNat 32 number).drop 20 := fun member => plain (List.mem_of_mem_drop member)
  simp only [identifier, String.toList_ofList, List.filter_append, filter_dash_cons,
    filter_dash (group _ _), filter_dash last, List.append_assoc]
  rw [joined 16 4, joined 12 4, joined 8 4, joined 0 8, List.drop_zero]

/-- Different numbers have different identifiers. -/
theorem identifier_injective {first second : Nat} (same : identifier first = identifier second) :
    first = second := by
  have digits : Hex.ofNat 32 first = Hex.ofNat 32 second := by
    rw [← digits_identifier, same, digits_identifier]
  have read := Hex.toNat?_ofNat 32 first
  rw [digits, Hex.toNat?_ofNat] at read
  exact (Option.some.inj read).symm

/-- Different numbers have different credentials. -/
theorem credential_injective {first second : Nat} (same : credential first = credential second) :
    first = second := by
  have digits : Hex.ofNat 64 first = Hex.ofNat 64 second := String.ofList_injective same
  have read := Hex.toNat?_ofNat 64 first
  rw [digits, Hex.toNat?_ofNat] at read
  exact (Option.some.inj read).symm

end Fresh

end UmaGrant
