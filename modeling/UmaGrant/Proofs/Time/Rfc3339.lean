import Mathlib.Algebra.Group.Nat.Defs
import UmaGrant.Proofs.Time.Calendar
import UmaGrant.Time.Rfc3339
/-! # Instants are read back

An instant that can be written is read as the same instant on the same clock. Each part is read up to
where the next one starts, and the parts are put together to the instant from which they came.
-/

namespace UmaGrant.Rfc3339

/-! ## Digits -/

private theorem foldl_eq_ofDigitChars (digits : List Char) (start : Nat) :
    digits.foldl (fun total char => total * 10 + (char.toNat - 48)) start =
      Nat.ofDigitChars 10 digits start := by
  induction digits generalizing start with
  | nil => rfl
  | cons digit rest ih =>
    rw [List.foldl_cons, ih, Nat.ofDigitChars_cons, Nat.mul_comm]
    rfl

theorem isDigit_of_mem_padded {width value : Nat} {digit : Char}
    (member : digit ∈ padded width value) : digit.isDigit = true := by
  rcases List.mem_append.mp member with zero | own
  · rw [List.eq_of_mem_replicate zero]
    rfl
  · exact Nat.isDigit_of_mem_toDigits (by decide) (by decide) own

theorem length_padded {width value : Nat} (positive : 0 < width) (small : value < 10 ^ width) :
    (padded width value).length = width := by
  have fits := (Nat.length_toDigits_le_iff (by decide) positive).mpr small
  rw [padded, List.length_append, List.length_replicate]
  omega

theorem ofDigitChars_padded (width value : Nat) :
    Nat.ofDigitChars 10 (padded width value) 0 = value := by
  rw [padded, Nat.ofDigitChars_append, Nat.ofDigitChars_replicate_zero, Nat.mul_zero,
    Nat.ofDigitChars_toDigits (by decide) (by decide)]

/-- A number of fixed width is read back, whatever follows. -/
theorem digits_padded (name : String) {width value : Nat} (positive : 0 < width)
    (small : value < 10 ^ width) (rest : List Char) :
    digits name width (padded width value ++ rest) = .ok (value, rest) := by
  have length := length_padded positive small
  have all : (padded width value).all Char.isDigit = true :=
    List.all_eq_true.mpr fun _ member => isDigit_of_mem_padded member
  rw [digits, List.take_left' length, List.drop_left' length, if_pos ⟨length, all⟩,
    foldl_eq_ofDigitChars, ofDigitChars_padded]

/-! ## Fractions -/

/-- What is left out of a fraction are zeros. -/
private theorem dropTrailingZeros_append (digits : List Char) :
    ∃ zeros, digits = dropTrailingZeros digits ++ List.replicate zeros '0' := by
  have whole := @List.takeWhile_append_dropWhile _ (fun char => decide (char = '0')) digits.reverse
  have passed := @List.all_takeWhile _ (fun char => decide (char = '0')) digits.reverse
  rw [dropTrailingZeros]
  generalize digits.reverse.takeWhile (fun char => decide (char = '0')) = last at whole passed
  have zeros : last = List.replicate last.length '0' :=
    List.eq_replicate_of_mem fun char member => of_decide_eq_true (List.all_eq_true.mp passed char member)
  have same := congrArg List.reverse whole
  rw [List.reverse_append, List.reverse_reverse, zeros, List.reverse_replicate] at same
  exact ⟨last.length, same.symm⟩

/-- The nanoseconds of a fraction are read back. -/
private theorem fractionNanos_dropTrailingZeros {nanos : Nat} (small : nanos < 10 ^ 9) :
    fractionNanos (dropTrailingZeros (padded 9 nanos)) = nanos := by
  obtain ⟨zeros, split⟩ := dropTrailingZeros_append (padded 9 nanos)
  have length := length_padded (by decide) small
  have value := ofDigitChars_padded 9 nanos
  generalize dropTrailingZeros (padded 9 nanos) = kept at split
  rw [split] at length value
  rw [List.length_append, List.length_replicate] at length
  rw [Nat.ofDigitChars_append, Nat.ofDigitChars_replicate_zero] at value
  have short : kept.take 9 = kept := List.take_of_length_le (by omega)
  have missing : 9 - kept.length = zeros := by omega
  rw [fractionNanos, short, foldl_eq_ofDigitChars, missing, Nat.mul_comm]
  exact value

/-- A text that goes on with neither a point nor a digit. -/
def Breaks (rest : List Char) : Prop := ∃ first more, rest = first :: more ∧ first ≠ '.' ∧
  first.isDigit = false

theorem fraction_fractionText {nanos : Nat} (small : nanos < 10 ^ 9) {rest : List Char}
    (breaks : Breaks rest) : fraction (fractionText nanos ++ rest) = .ok (nanos, rest) := by
  obtain ⟨first, more, rfl, point, digit⟩ := breaks
  by_cases whole : nanos = 0
  · subst whole
    change fraction (first :: more) = _
    unfold fraction
    split
    case h_1 same => exact absurd (List.cons.inj same).1 point
    case h_2 => rfl
  · have value := fractionNanos_dropTrailingZeros small
    have allDigits : ∀ char ∈ dropTrailingZeros (padded 9 nanos), char.isDigit = true := by
      intro char member
      obtain ⟨zeros, split⟩ := dropTrailingZeros_append (padded 9 nanos)
      have among : char ∈ padded 9 nanos := by
        rw [split]
        exact List.mem_append_left _ member
      exact isDigit_of_mem_padded among
    rw [fractionText, if_neg whole]
    generalize dropTrailingZeros (padded 9 nanos) = kept at value allDigits
    have taken : (kept ++ first :: more).takeWhile Char.isDigit = kept := by
      rw [List.takeWhile_append_of_pos allDigits, List.takeWhile_cons_of_neg (by simp [digit]),
        List.append_nil]
    have some : kept.isEmpty = false := by
      cases kept with
      | nil => exact absurd value.symm whole
      | cons _ _ => rfl
    change fraction ('.' :: (kept ++ first :: more)) = _
    rw [fraction, taken, some, if_neg Bool.false_ne_true, value, List.drop_left]

/-! ## Offsets -/

theorem breaks_offsetText (offset : Int) : Breaks (offsetText offset) := by
  unfold offsetText
  split
  · exact ⟨_, _, rfl, by decide, rfl⟩
  · split <;> exact ⟨_, _, rfl, by decide, rfl⟩

/-- An offset of whole minutes below a day is read back. -/
theorem offset_offsetText {seconds : Int} (hours : seconds.natAbs / 3600 ≤ 23)
    (minutes : seconds.natAbs % 60 = 0) : offset (offsetText seconds) = .ok (seconds, []) := by
  by_cases zero : seconds = 0
  · subst zero
    rfl
  · have read : ∀ sign : Char, sign = '+' ∨ sign = '-' →
        offset (sign :: (padded 2 (seconds.natAbs / 3600) ++
          ':' :: padded 2 (seconds.natAbs / 60 % 60))) =
          .ok (if sign = '-' then -(seconds.natAbs : Int) else seconds.natAbs, []) := by
      intro sign signed
      have plain : ¬ (sign = 'Z' ∨ sign = 'z') := by
        rcases signed with rfl | rfl <;> decide
      have hour := digits_padded "offset hour" (by decide : 0 < 2)
        (by omega : seconds.natAbs / 3600 < 10 ^ 2) (':' :: padded 2 (seconds.natAbs / 60 % 60))
      have minute := digits_padded "offset minute" (by decide : 0 < 2)
        (by omega : seconds.natAbs / 60 % 60 < 10 ^ 2) []
      rw [List.append_nil] at minute
      have early : ¬ 23 < seconds.natAbs / 3600 := Nat.not_lt.mpr hours
      have below : ¬ 59 < seconds.natAbs / 60 % 60 := by omega
      have whole : ((seconds.natAbs / 3600 : Nat) : Int) * 3600 +
          ((seconds.natAbs / 60 % 60 : Nat) : Int) * 60 = seconds.natAbs := by omega
      simp only [offset, if_neg plain, if_pos signed, hour, bind, Except.bind, if_neg early, literal,
        if_true, minute, if_neg below, whole]
    rw [offsetText, if_neg zero]
    by_cases negative : seconds < 0
    · rw [if_pos negative, read '-' (.inr rfl), if_pos rfl]
      congr 2
      omega
    · rw [if_neg negative, read '+' (.inl rfl), if_neg (by decide)]
      congr 2
      omega

/-! ## Instants -/

private theorem month_padded {value : Nat} (positive : value ≠ 0) (small : value < 10 ^ 2)
    (rest : List Char) : month (padded 2 value ++ rest) = .ok (value, rest) := by
  rw [month, digits_padded "month" (by decide) small]
  change (if value = 0 then _ else _) = _
  rw [if_neg positive]

/-- A text that is written from its parts is read as these. -/
private theorem parse_parts {year month day hour minute second nanos : Nat} {seconds : Int}
    (years : year < 10 ^ 4) (months : month ≠ 0 ∧ month < 10 ^ 2) (days : day < 10 ^ 2)
    (hours : hour < 10 ^ 2) (minutes : minute < 10 ^ 2) (whole : second < 10 ^ 2)
    (small : nanos < 10 ^ 9) (zoneHours : seconds.natAbs / 3600 ≤ 23)
    (zoneMinutes : seconds.natAbs % 60 = 0) :
    parse (String.ofList <|
      padded 4 year ++ '-' :: padded 2 month ++ '-' :: padded 2 day ++ 'T' :: padded 2 hour ++
        ':' :: padded 2 minute ++ ':' :: padded 2 second ++ fractionText nanos ++
        offsetText seconds) =
      assemble ⟨year, month, day⟩ hour minute second nanos seconds := by
  have yearRead := digits_padded "year" (by decide) years
  have monthRead := month_padded months.1 months.2
  have dayRead := digits_padded "day" (by decide) days
  have hourRead := digits_padded "hour" (by decide) hours
  have minuteRead := digits_padded "minute" (by decide) minutes
  have secondRead := digits_padded "second" (by decide) whole
  have fractionRead := fraction_fractionText small (breaks_offsetText seconds)
  have offsetRead := offset_offsetText zoneHours zoneMinutes
  have separated : ∀ rest, separator ('T' :: rest) = .ok rest := fun _ => rfl
  have colon : ∀ rest, literal ':' (':' :: rest) = .ok rest := fun _ => rfl
  have dash : ∀ rest, literal '-' ('-' :: rest) = .ok rest := fun _ => rfl
  simp only [parse, String.toList_ofList, List.append_assoc, List.cons_append, yearRead, monthRead,
    dayRead, hourRead, minuteRead, secondRead, fractionRead, offsetRead, separated, colon, dash, bind,
    Except.bind, List.isEmpty_nil, if_true]

/-- The parts of a clock without a leap second are put together. -/
private theorem assemble_eq {date : Date} {hour minute second : Nat} (months : date.month ≤ 12)
    (days : 1 ≤ date.day ∧ date.day ≤ Date.daysInMonth date.year date.month) (hours : hour ≤ 23)
    (minutes : minute ≤ 59) (seconds : second ≤ 59) (nanos : Nat) (offset : Int) :
    assemble date hour minute second nanos offset =
      .ok ⟨⟨date.toDays * Instant.dayNanos +
        ((hour * 3600 + minute * 60 + second : Nat) : Int) * 1000000000 + nanos -
          offset * 1000000000⟩, offset⟩ := by
  have ordinary : ¬ second = 60 := by omega
  have day : ¬ (date.day = 0 ∨ Date.daysInMonth date.year date.month < date.day) := by omega
  simp only [assemble, ordinary, if_false, if_neg (Nat.not_lt.mpr months), if_neg day,
    if_neg (Nat.not_lt.mpr hours), if_neg (Nat.not_lt.mpr minutes),
    if_neg (Nat.not_lt.mpr seconds), false_and]

/-- An instant that can be written is read back, with the offset of its clock. -/
theorem parse_format {zoned : ZonedInstant} {text : String} (written : format zoned = .ok text) :
    parse text = .ok zoned := by
  unfold format at written
  dsimp only at written
  split at written
  · cases written
  rename_i years
  split at written
  · cases written
  rename_i hours
  split at written
  · cases written
  rename_i minutes
  obtain rfl := Except.ok.inj written
  have length : Instant.dayNanos = 86400000000000 := rfl
  have months := Date.month_ofDays (zoned.clock.nanos / Instant.dayNanos)
  have days := Date.day_ofDays (zoned.clock.nanos / Instant.dayNanos)
  have counted := Date.toDays_ofDays (zoned.clock.nanos / Instant.dayNanos)
  have inDay : ((zoned.clock.nanos % Instant.dayNanos).toNat : Int) =
      zoned.clock.nanos % Instant.dayNanos := Int.toNat_of_nonneg (Int.emod_nonneg _ (by decide))
  have short : zoned.clock.nanos % Instant.dayNanos < Instant.dayNanos :=
    Int.emod_lt_of_pos _ (by decide)
  generalize Date.ofDays (zoned.clock.nanos / Instant.dayNanos) = date at years months days counted ⊢
  generalize (zoned.clock.nanos % Instant.dayNanos).toNat = nanos at inDay ⊢
  have early : nanos / 1000000000 < 86400 := by omega
  have longest := Date.daysInMonth_le date.year date.month
  have yearKept : ((date.year.toNat : Nat) : Int) = date.year := Int.toNat_of_nonneg (by omega)
  rw [parse_parts (by omega) (by omega) (by omega) (by omega) (by omega) (by omega) (by omega)
    (Nat.not_lt.mp hours) (Decidable.not_not.mp minutes), yearKept,
    assemble_eq months.2 days (by omega) (by omega) (by omega), counted]
  have whole : zoned.clock.nanos / Instant.dayNanos * Instant.dayNanos +
      zoned.clock.nanos % Instant.dayNanos = zoned.clock.nanos := Int.ediv_mul_add_emod _ _
  have instant : zoned.clock.nanos = zoned.instant.nanos + zoned.offset * 1000000000 := rfl
  have read : zoned.clock.nanos / Instant.dayNanos * Instant.dayNanos +
      ((nanos / 1000000000 / 3600 * 3600 + nanos / 1000000000 / 60 % 60 * 60 +
        nanos / 1000000000 % 60 : Nat) : Int) * 1000000000 + ((nanos % 1000000000 : Nat) : Int) -
      zoned.offset * 1000000000 = zoned.instant.nanos := by omega
  rw [read]

end UmaGrant.Rfc3339
