import Mathlib.Data.List.Induction
import SchemaSeed.Decimal.Natural

/-! Reading a whole number back from its decimal text, which may have zeros in front. -/

namespace SchemaSeed

namespace Decimal

/-- The figures with which whole numbers are written. -/
def figures : Text := ['0', '1', '2', '3', '4', '5', '6', '7', '8', '9']

theorem digitChar_mem_figures {digit : Nat} (small : digit < 10) : digit.digitChar ∈ figures := by
  have all : ∀ digit < 10, digit.digitChar ∈ figures := by decide
  exact all digit small

theorem digitValue?_digitChar {digit : Nat} (small : digit < 10) :
    Character.digitValue? digit.digitChar = some digit := by
  have all : ∀ digit < 10, Character.digitValue? digit.digitChar = some digit := by decide
  exact all digit small

theorem natural_of_lt {number : Nat} (small : number < 10) :
    natural number = [number.digitChar] :=
  Nat.toDigits_of_lt_base small

/-- The last digit comes off the end. -/
theorem natural_of_le {number : Nat} (large : 10 ≤ number) :
    natural number = natural (number / 10) ++ [(number % 10).digitChar] :=
  Nat.toDigits_of_base_le (by decide) large

theorem natural_ne_nil (number : Nat) : natural number ≠ [] :=
  Nat.toDigits_ne_nil

theorem mem_figures_of_mem_natural (number : Nat) :
    ∀ character ∈ natural number, character ∈ figures := by
  induction number using Nat.strongRecOn with
  | ind number induction =>
      rcases Nat.lt_or_ge number 10 with small | large
      · rw [natural_of_lt small]
        simpa using digitChar_mem_figures small
      · rw [natural_of_le large]
        intro character member
        rcases List.mem_append.mp member with front | last
        · exact induction (number / 10) (by omega) character front
        · rw [List.mem_singleton] at last
          rw [last]
          exact digitChar_mem_figures (Nat.mod_lt number (by decide))

theorem value_natural (number : Nat) : value (natural number) = number := by
  induction number using Nat.strongRecOn with
  | ind number induction =>
      rcases Nat.lt_or_ge number 10 with small | large
      · rw [natural_of_lt small]
        simp [value, digitValue?_digitChar small]
      · rw [natural_of_le large, value_append_singleton, induction (number / 10) (by omega),
          digitValue?_digitChar (Nat.mod_lt number (by decide)), Option.getD_some]
        omega

/-- Every digit that is read makes the number one power of ten larger at the most. -/
theorem value_lt (digits : Text) : value digits < Nat.pow 10 digits.length := by
  suffices from_total : ∀ total count, total < Nat.pow 10 count →
      digits.foldl (fun total digit => 10 * total + (Character.digitValue? digit).getD 0) total <
        Nat.pow 10 (digits.length + count) by
    exact from_total 0 0 Nat.one_pos
  induction digits with
  | nil =>
      intro total count small
      simpa using small
  | cons digit digits induction =>
      intro total count small
      have figure : (Character.digitValue? digit).getD 0 < 10 := by
        cases found : Character.digitValue? digit with
        | none => exact Nat.succ_pos 9
        | some value => exact Character.digitValue?_lt found
      have larger : Nat.pow 10 (count + 1) = Nat.pow 10 count * 10 := rfl
      rw [List.length_cons, Nat.add_assoc, Nat.add_comm 1]
      exact induction (10 * total + (Character.digitValue? digit).getD 0) (count + 1) (by omega)

theorem isTooLong_natCast {number : Nat} (long : Nat.pow 10 digitLimit ≤ number) :
    isTooLong number = true :=
  decide_eq_true long

/-- What digits denote can be written again if they are no more than the longest numeral. -/
theorem isTooLong_value {digits : Text} (short : digits.length ≤ digitLimit) {number : Int}
    (denoted : number.natAbs = value digits) : isTooLong number = false := by
  have grows (limit : Nat) (longer : digits.length ≤ limit) :
      Nat.pow 10 digits.length ≤ Nat.pow 10 limit :=
    Nat.pow_le_pow_right (Nat.succ_pos 9) longer
  refine decide_eq_false (Nat.not_le_of_lt ?_)
  rw [denoted]
  exact Nat.lt_of_lt_of_le (value_lt digits) (grows digitLimit short)

theorem value_zeros (zeros : Nat) : value (List.replicate zeros '0') = 0 := by
  induction zeros with
  | zero => rfl
  | succ zeros induction =>
      have zero : Character.digitValue? '0' = some 0 := by decide
      rw [List.replicate_succ', value_append_singleton, induction, zero]
      rfl

theorem value_append (front back : Text) :
    value (front ++ back) = value front * Nat.pow 10 back.length + value back := by
  induction back using List.reverseRecOn with
  | nil => simp [value]
  | append_singleton back digit induction =>
      have power : Nat.pow 10 (back.length + 1) = Nat.pow 10 back.length * 10 := rfl
      rw [← List.append_assoc, value_append_singleton, induction, value_append_singleton,
        List.length_append, List.length_singleton, power, ← Nat.mul_assoc]
      omega

theorem head_natural {number : Nat} (positive : 0 < number) :
    ∃ first rest, natural number = first :: rest ∧ first ≠ '0' := by
  induction number using Nat.strongRecOn with
  | ind number induction =>
      rcases Nat.lt_or_ge number 10 with small | large
      · have all : ∀ digit < 10, 0 < digit → digit.digitChar ≠ '0' := by decide
        exact ⟨_, [], natural_of_lt small, all number small positive⟩
      · rcases induction (number / 10) (by omega) (by omega) with ⟨first, rest, shape, nonzero⟩
        exact ⟨first, _, by rw [natural_of_le large, shape, List.cons_append], nonzero⟩

theorem value_zeros_append (zeros : Nat) (digits : Text) :
    value (List.replicate zeros '0' ++ digits) = value digits := by
  rw [value_append, value_zeros, Nat.zero_mul, Nat.zero_add]

end Decimal

end SchemaSeed
