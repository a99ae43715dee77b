import Mathlib.Data.List.Induction
import UmaGrant.Proofs.Consultation
import UmaGrant.Proofs.Time.Rfc3339
/-! # Which instants have a text

An instant has a text if the clock that shows it shows a year of four digits and is less than a day off,
in whole minutes. Every instant that was read from a text is of this kind, so it can be written again.
-/

namespace UmaGrant

namespace Date

/-! ## Years -/

/-- A date comes after the start of its year and before the start of the next one. -/
theorem toDays_within {date : Date} (months : 1 ≤ date.month ∧ date.month ≤ 12)
    (days : 1 ≤ date.day ∧ date.day ≤ 31) :
    toDays ⟨date.year, 1, 1⟩ ≤ date.toDays ∧ date.toDays < toDays ⟨date.year + 1, 1, 1⟩ := by
  obtain ⟨year, month, day⟩ := date
  dsimp only [toDays] at months days ⊢
  split <;> omega

/-- Years follow one another. -/
theorem startOfYear_mono {first second : Int} (onward : first ≤ second) :
    toDays ⟨first, 1, 1⟩ ≤ toDays ⟨second, 1, 1⟩ := by
  dsimp only [toDays]
  omega

/-- The date of a day is in the year from which the day was counted. -/
theorem year_ofDays_toDays {date : Date} (months : 1 ≤ date.month ∧ date.month ≤ 12)
    (days : 1 ≤ date.day ∧ date.day ≤ 31) : (ofDays date.toDays).year = date.year := by
  have within := toDays_within months days
  have months' := month_ofDays date.toDays
  have days' := day_ofDays date.toDays
  have longest := daysInMonth_le (ofDays date.toDays).year (ofDays date.toDays).month
  have same := toDays_within months' ⟨days'.1, by omega⟩
  rw [toDays_ofDays] at same
  rcases Int.lt_trichotomy (ofDays date.toDays).year date.year with before | equal | after
  · have later := startOfYear_mono before
    omega
  · exact equal
  · have later := startOfYear_mono after
    omega

end Date

/-- The year that the clock of an instant shows. -/
def ZonedInstant.year (zoned : ZonedInstant) : Int :=
  (Date.ofDays (zoned.clock.nanos / Instant.dayNanos)).year

namespace Rfc3339

/-- Whether an instant has a text. -/
structure HasText (zoned : ZonedInstant) : Prop where
  years : 0 ≤ zoned.year ∧ zoned.year ≤ 9999
  hours : zoned.offset.natAbs < 24 * 3600
  minutes : zoned.offset % 60 = 0

/-- An instant can be written exactly if it has a text. -/
theorem format_ok_iff (zoned : ZonedInstant) :
    (∃ text, format zoned = .ok text) ↔ HasText zoned := by
  have year : (Date.ofDays (zoned.clock.nanos / Instant.dayNanos)).year = zoned.year := rfl
  unfold format
  dsimp only
  rw [year]
  constructor
  · rintro ⟨text, written⟩
    split at written
    · cases written
    rename_i years
    split at written
    · cases written
    rename_i hours
    split at written
    · cases written
    rename_i minutes
    exact ⟨by omega, by omega, by omega⟩
  · rintro ⟨years, hours, minutes⟩
    rw [if_neg (by omega), if_neg (by omega), if_neg (by omega)]
    exact ⟨_, rfl⟩

/-! ## What is read -/

private theorem foldl_digits_lt {digits : List Char} (all : ∀ digit ∈ digits, digit.isDigit = true) :
    digits.foldl (fun total char => total * 10 + (char.toNat - 48)) 0 < 10 ^ digits.length := by
  induction digits using List.reverseRecOn with
  | nil => exact Nat.one_pos
  | append_singleton before last ih =>
    have small := ih fun digit member => all digit (List.mem_append_left _ member)
    have digit : last.toNat - 48 < 10 := by
      have bounds := all last (List.mem_append_right _ List.mem_cons_self)
      rw [Char.isDigit, Bool.and_eq_true, decide_eq_true_eq, decide_eq_true_eq] at bounds
      have high : last.toNat ≤ 57 := bounds.2
      omega
    rw [List.foldl_append, List.length_append, List.length_singleton, Nat.pow_succ]
    change _ * 10 + (last.toNat - 48) < _
    omega

/-- A number of so many digits. -/
theorem digits_lt {name : String} {count value : Nat} {chars rest : List Char}
    (read : digits name count chars = .ok (value, rest)) : value < 10 ^ count := by
  rw [digits] at read
  split at read
  · rename_i taken
    obtain ⟨length, all⟩ := taken
    obtain ⟨rfl, -⟩ := Prod.mk.inj (Except.ok.inj read)
    have small := foldl_digits_lt (List.all_eq_true.mp all)
    rwa [length] at small
  · cases read

/-- A fraction is less than a second. -/
theorem fraction_lt {nanos : Nat} {chars rest : List Char}
    (read : fraction chars = .ok (nanos, rest)) : nanos < 10 ^ 9 := by
  unfold fraction at read
  split at read
  · rename_i digits
    dsimp only at read
    split at read
    · cases read
    obtain ⟨rfl, -⟩ := Prod.mk.inj (Except.ok.inj read)
    have all : ∀ digit ∈ (digits.takeWhile Char.isDigit).take 9, digit.isDigit = true :=
      fun digit member => List.all_eq_true.mp List.all_takeWhile digit (List.mem_of_mem_take member)
    have small := foldl_digits_lt all
    have short : ((digits.takeWhile Char.isDigit).take 9).length ≤ 9 := List.length_take_le _ _
    unfold fractionNanos
    dsimp only
    generalize (digits.takeWhile Char.isDigit).take 9 = kept at small short ⊢
    have scaled := Nat.mul_lt_mul_of_pos_right small (Nat.pow_pos (by decide : 0 < 10) : 0 < 10 ^ (9 - kept.length))
    rw [← Nat.pow_add, Nat.add_sub_cancel' short] at scaled
    exact scaled
  · obtain ⟨rfl, -⟩ := Prod.mk.inj (Except.ok.inj read)
    decide

/-- An offset is less than a day, in whole minutes. -/
theorem offset_bounds {seconds : Int} {chars rest : List Char}
    (read : offset chars = .ok (seconds, rest)) : seconds.natAbs < 24 * 3600 ∧ seconds % 60 = 0 := by
  unfold offset at read
  split at read
  · cases read
  split at read
  · obtain ⟨rfl, -⟩ := Prod.mk.inj (Except.ok.inj read)
    decide
  split at read
  · obtain ⟨⟨hours, _⟩, _, read⟩ := except_bind_eq_ok_iff.mp read
    dsimp only at read
    split at read
    · cases read
    rename_i early
    obtain ⟨_, _, read⟩ := except_bind_eq_ok_iff.mp read
    obtain ⟨⟨minutes, _⟩, _, read⟩ := except_bind_eq_ok_iff.mp read
    dsimp only at read
    split at read
    · cases read
    rename_i below
    obtain ⟨rfl, -⟩ := Prod.mk.inj (Except.ok.inj read)
    split <;> omega
  · cases read

/-- The clock of an instant that was put together shows the year from which it was. -/
theorem assemble_shows {date : Date} {hour minute second nanos : Nat} {seconds : Int}
    {zoned : ZonedInstant} (positive : date.month ≠ 0) (below : nanos < 10 ^ 9)
    (read : assemble date hour minute second nanos seconds = .ok zoned) :
    zoned.offset = seconds ∧ zoned.year = date.year := by
  have longest := Date.daysInMonth_le date.year date.month
  have kept : (if second = 60 then 999999999 else nanos) < 10 ^ 9 := by split <;> omega
  unfold assemble at read
  dsimp only at read
  generalize (if second = 60 then 999999999 else nanos) = nanos at kept read
  generalize (if second = 60 then 59 else second) = counted at read
  split at read
  · cases read
  rename_i months
  split at read
  · cases read
  rename_i days
  split at read
  · cases read
  rename_i hours
  split at read
  · cases read
  rename_i minutes
  split at read
  · cases read
  rename_i seconds
  split at read
  · cases read
  obtain rfl := Except.ok.inj read
  refine ⟨rfl, ?_⟩
  rw [ZonedInstant.year, ZonedInstant.clock]
  dsimp only
  rw [Int.sub_add_cancel]
  have day : (date.toDays * Instant.dayNanos +
      ((hour * 3600 + minute * 60 + counted : Nat) : Int) * 1000000000 + (nanos : Int)) /
        Instant.dayNanos = date.toDays := by
    rw [Instant.dayNanos]
    omega
  rw [day]
  exact Date.year_ofDays_toDays ⟨by omega, by omega⟩ ⟨by omega, by omega⟩

/-- What was read can be written. -/
theorem hasText_of_parse {text : String} {zoned : ZonedInstant} (read : parse text = .ok zoned) :
    HasText zoned := by
  unfold parse at read
  obtain ⟨⟨year, _⟩, yearRead, read⟩ := except_bind_eq_ok_iff.mp read
  obtain ⟨_, _, read⟩ := except_bind_eq_ok_iff.mp read
  obtain ⟨⟨month, _⟩, monthRead, read⟩ := except_bind_eq_ok_iff.mp read
  obtain ⟨_, _, read⟩ := except_bind_eq_ok_iff.mp read
  obtain ⟨⟨day, _⟩, _, read⟩ := except_bind_eq_ok_iff.mp read
  obtain ⟨_, _, read⟩ := except_bind_eq_ok_iff.mp read
  obtain ⟨⟨hour, _⟩, _, read⟩ := except_bind_eq_ok_iff.mp read
  obtain ⟨_, _, read⟩ := except_bind_eq_ok_iff.mp read
  obtain ⟨⟨minute, _⟩, _, read⟩ := except_bind_eq_ok_iff.mp read
  obtain ⟨_, _, read⟩ := except_bind_eq_ok_iff.mp read
  obtain ⟨⟨second, _⟩, _, read⟩ := except_bind_eq_ok_iff.mp read
  obtain ⟨⟨nanos, _⟩, fractionRead, read⟩ := except_bind_eq_ok_iff.mp read
  obtain ⟨⟨seconds, _⟩, offsetRead, read⟩ := except_bind_eq_ok_iff.mp read
  dsimp only at read
  split at read
  · have positive : month ≠ 0 := by
      obtain ⟨⟨value, _⟩, _, kept⟩ := except_bind_eq_ok_iff.mp monthRead
      dsimp only at kept
      split at kept
      · cases kept
      · cases kept
        assumption
    obtain ⟨offset, shown⟩ := assemble_shows positive (fraction_lt fractionRead) read
    obtain ⟨hours, minutes⟩ := offset_bounds offsetRead
    have digits := digits_lt yearRead
    rw [← offset] at hours minutes
    refine ⟨?_, hours, minutes⟩
    rw [shown]
    dsimp only
    omega
  · cases read

end Rfc3339

end UmaGrant
