import UmaGrant.Json.Value
/-! # Sameness of values

Sameness of JSON values is not equality, since zero has two signs. It is an equivalence all the same: every
value is the same as itself, either of two may come first, and what is the same as a third value in between
is the same.
-/

namespace UmaGrant

theorem Number.sameNumber_refl (number : Number) : number.sameNumber number = true := by
  cases number <;> simp [sameNumber, Double.sameNumber]

theorem Number.sameNumber_comm (first second : Number) :
    first.sameNumber second = second.sameNumber first := by
  cases first <;> cases second <;> simp only [sameNumber, Double.sameNumber, eq_comm, Bool.and_comm]

theorem Number.sameNumber_trans {first second third : Number}
    (front : first.sameNumber second = true) (back : second.sameNumber third = true) :
    first.sameNumber third = true := by
  cases first <;> cases second <;> cases third <;>
    simp only [sameNumber, Bool.false_eq_true, decide_eq_true_eq] at front back ⊢
  · exact front.trans back
  · simp only [Double.sameNumber, Bool.or_eq_true, Bool.and_eq_true, decide_eq_true_eq] at front back ⊢
    rcases front with rfl | ⟨zero, same⟩
    · exact back
    · rcases back with rfl | ⟨-, last⟩
      · exact .inr ⟨zero, same⟩
      · exact .inr ⟨zero, last⟩

namespace Json

mutual

theorem sameValue_refl : (json : Json) → sameValue json json = true
  | .null => by simp [sameValue]
  | .bool _ => by simp [sameValue]
  | .number value => by simpa [sameValue] using value.sameNumber_refl
  | .string _ => by simp [sameValue]
  | .array items => by simpa [sameValue] using sameItems_refl items
  | .object members => by simpa [sameValue] using sameMembers_refl members

private theorem sameItems_refl : (items : List Json) → sameItems items items = true
  | [] => by simp [sameItems]
  | item :: rest => by simp [sameItems, sameValue_refl item, sameItems_refl rest]

private theorem sameMembers_refl :
    (members : List (String × Json)) → sameMembers members members = true
  | [] => by simp [sameMembers]
  | (_, value) :: rest => by simp [sameMembers, sameValue_refl value, sameMembers_refl rest]

end

mutual

theorem sameValue_comm : (first second : Json) → sameValue first second = sameValue second first
  | .null, second => by cases second <;> simp only [sameValue]
  | .bool _, second => by cases second <;> simp only [sameValue, eq_comm]
  | .number first, second => by
    cases second <;> simp only [sameValue]
    exact first.sameNumber_comm _
  | .string _, second => by cases second <;> simp only [sameValue, eq_comm]
  | .array firsts, second => by
    cases second <;> simp only [sameValue]
    exact sameItems_comm firsts _
  | .object firsts, second => by
    cases second <;> simp only [sameValue]
    exact sameMembers_comm firsts _

private theorem sameItems_comm : (firsts seconds : List Json) →
    sameItems firsts seconds = sameItems seconds firsts
  | [], seconds => by cases seconds <;> simp only [sameItems]
  | first :: firsts, seconds => by
    cases seconds <;> simp only [sameItems]
    rw [sameValue_comm first, sameItems_comm firsts]

private theorem sameMembers_comm : (firsts seconds : List (String × Json)) →
    sameMembers firsts seconds = sameMembers seconds firsts
  | [], seconds => by cases seconds <;> simp only [sameMembers]
  | (name, first) :: firsts, seconds => by
    cases seconds <;> simp only [sameMembers]
    rw [sameValue_comm first, sameMembers_comm firsts, decide_eq_decide.mpr eq_comm]

end

mutual

theorem sameValue_trans : (first second third : Json) →
    sameValue first second = true → sameValue second third = true → sameValue first third = true
  | .null, second, third => by
    intro front back
    cases second <;> simp only [sameValue, Bool.false_eq_true] at front
    exact back
  | .bool _, second, third => by
    intro front back
    cases second <;> simp only [sameValue, Bool.false_eq_true, decide_eq_true_eq] at front
    exact front ▸ back
  | .number _, second, third => by
    intro front back
    cases second <;> simp only [sameValue, Bool.false_eq_true] at front
    cases third <;> simp only [sameValue, Bool.false_eq_true] at back ⊢
    exact Number.sameNumber_trans front back
  | .string _, second, third => by
    intro front back
    cases second <;> simp only [sameValue, Bool.false_eq_true, decide_eq_true_eq] at front
    exact front ▸ back
  | .array firsts, second, third => by
    intro front back
    cases second <;> simp only [sameValue, Bool.false_eq_true] at front
    cases third <;> simp only [sameValue, Bool.false_eq_true] at back ⊢
    exact sameItems_trans firsts _ _ front back
  | .object firsts, second, third => by
    intro front back
    cases second <;> simp only [sameValue, Bool.false_eq_true] at front
    cases third <;> simp only [sameValue, Bool.false_eq_true] at back ⊢
    exact sameMembers_trans firsts _ _ front back

private theorem sameItems_trans : (firsts seconds thirds : List Json) →
    sameItems firsts seconds = true → sameItems seconds thirds = true →
    sameItems firsts thirds = true
  | [], seconds, thirds => by
    intro front back
    cases seconds <;> simp only [sameItems, Bool.false_eq_true] at front
    exact back
  | first :: firsts, seconds, thirds => by
    intro front back
    cases seconds <;> simp only [sameItems, Bool.false_eq_true, Bool.and_eq_true] at front
    cases thirds <;> simp only [sameItems, Bool.false_eq_true, Bool.and_eq_true] at back ⊢
    exact ⟨sameValue_trans first _ _ front.1 back.1, sameItems_trans firsts _ _ front.2 back.2⟩

private theorem sameMembers_trans : (firsts seconds thirds : List (String × Json)) →
    sameMembers firsts seconds = true → sameMembers seconds thirds = true →
    sameMembers firsts thirds = true
  | [], seconds, thirds => by
    intro front back
    cases seconds <;> simp only [sameMembers, Bool.false_eq_true] at front
    exact back
  | (name, first) :: firsts, seconds, thirds => by
    intro front back
    cases seconds <;>
      simp only [sameMembers, Bool.false_eq_true, Bool.and_eq_true, decide_eq_true_eq] at front
    cases thirds <;>
      simp only [sameMembers, Bool.false_eq_true, Bool.and_eq_true, decide_eq_true_eq] at back ⊢
    exact ⟨⟨front.1.1.trans back.1.1, sameValue_trans first _ _ front.1.2 back.1.2⟩,
      sameMembers_trans firsts _ _ front.2 back.2⟩

end

end Json

end UmaGrant
