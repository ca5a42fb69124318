import SchemaSeed.Proofs.Decimal.Natural

/-! Numbers by the figures that spell them: whole numbers with their sign, and numerals with
figures behind a point, rounded to fewer places. -/

namespace SchemaSeed

namespace Decimal

/-- Figures, at least one of them. -/
structure Figured (text : Text) : Prop where
  nonempty : text ≠ []
  known : ∀ character ∈ text, character ∈ figures

/-- The number that figures denote. -/
def figured? (text : Text) : Option Nat :=
  if !text.isEmpty && text.all (List.elem · figures) then some (value text) else none

/-- The whole number that a text spells, with a minus in front if it is negative. -/
def spelled? : Text → Option Int
  | '-' :: digits => (figured? digits).map fun number : Nat => -(number : Int)
  | digits => (figured? digits).map fun number : Nat => (number : Int)

theorem Figured.figured? {text : Text} (figured : Figured text) :
    Decimal.figured? text = some (value text) := by
  rw [Decimal.figured?, if_pos]
  have known := figured.known
  simpa [figured.nonempty] using known

theorem Figured.spelled? {text : Text} (figured : Figured text) :
    Decimal.spelled? text = some (value text : Int) := by
  have unsigned : ∀ digits, text ≠ '-' :: digits := by
    rintro digits rfl
    have minus := figured.known '-' List.mem_cons_self
    revert minus
    decide
  unfold Decimal.spelled?
  split
  · exact absurd rfl (unsigned _)
  · rw [figured.figured?]
    rfl

theorem figured_natural (number : Nat) : Figured (natural number) :=
  ⟨natural_ne_nil number, mem_figures_of_mem_natural number⟩

theorem spelled?_integer (number : Int) : spelled? (integer number) = some number := by
  rw [integer]
  split
  · rw [spelled?, (figured_natural _).figured?, value_natural, Option.map_some]
    congr 1
    omega
  · rw [(figured_natural _).spelled?, value_natural]
    congr 1
    omega

/-- A number below a power of ten has no more figures than the exponent says. -/
theorem length_natural_le {number count : Nat} (small : number < Nat.pow 10 count)
    (positive : 0 < count) : (natural number).length ≤ count := by
  induction count generalizing number with
  | zero => exact absurd positive (Nat.lt_irrefl 0)
  | succ count induction =>
      rcases Nat.lt_or_ge number 10 with single | large
      · rw [natural_of_lt single]
        exact Nat.succ_le_succ (Nat.zero_le count)
      · have power : Nat.pow 10 (count + 1) = Nat.pow 10 count * 10 := rfl
        have more : 0 < count := by
          rcases Nat.eq_zero_or_pos count with rfl | more
          · exact absurd (Nat.lt_of_le_of_lt large small) (by decide)
          · exact more
        have shorter : number / 10 < Nat.pow 10 count := by omega
        have front := induction shorter more
        rw [natural_of_le large, List.length_append]
        exact Nat.succ_le_succ front

theorem integer_of_nonneg {number : Int} (nonneg : 0 ≤ number) :
    integer number = natural number.natAbs := by
  rw [integer, if_neg (Int.not_lt.mpr nonneg)]

/-! ## Places behind the point -/

/-- A fraction rounded to the nearest whole number, a half away from zero. -/
def roundHalfUp (numerator denominator : Nat) : Nat :=
  (2 * numerator + denominator) / (2 * denominator)

theorem roundHalfUp_le_iff {numerator denominator bound : Nat} (positive : 0 < denominator) :
    roundHalfUp numerator denominator ≤ bound ↔
      2 * numerator < (2 * bound + 1) * denominator := by
  have bounds : roundHalfUp numerator denominator < bound + 1 ↔
      2 * numerator + denominator < (bound + 1) * (2 * denominator) :=
    Nat.div_lt_iff_lt_mul (Nat.mul_pos (by decide) positive)
  have product : (bound + 1) * (2 * denominator) = (2 * bound + 1) * denominator + denominator := by
    rw [Nat.add_mul, Nat.add_mul, Nat.one_mul, Nat.one_mul, Nat.mul_left_comm, Nat.mul_assoc]
    omega
  omega

/-- What a numeral with these figures before and behind its point comes to, counted in units of
the last of `places` places, once it is rounded to them. -/
def units (whole fraction : Text) (places : Nat) : Nat :=
  roundHalfUp ((value whole * Nat.pow 10 fraction.length + value fraction) * Nat.pow 10 places)
    (Nat.pow 10 fraction.length)

example : units ['9', '9'] ['9', '5'] 1 = 1000 ∧ units ['9', '9'] ['5'] 2 = 9950 := by decide

end Decimal

end SchemaSeed
