import Mathlib.Algebra.Order.Field.Basic
import Mathlib.Algebra.Order.Field.Rat
import Mathlib.Tactic.FieldSimp
import Mathlib.Tactic.Linarith
import Mathlib.Tactic.Positivity
import Mathlib.Tactic.Ring
import SchemaSeed.Decimal.Shortest
import SchemaSeed.Proofs.Decimal.Spelled

/-! The shortest decimal of a double beside the double.  It lies closer to it than to any other
double, or halfway to one if the significand is even, so that whoever reads it as the nearest
double finds the same one again.  Seventeen digits always leave such a decimal. -/

namespace SchemaSeed

namespace Decimal

/-- The number `number * base ^ exponent`. -/
def scaled (base number : Nat) (exponent : Int) : ℚ :=
  ((number * Nat.pow base exponent.toNat : Nat) : ℚ) / (Nat.pow base (-exponent).toNat : Nat)

theorem scaled_eq {base : Nat} (positive : 0 < base) (number : Nat) (exponent : Int) :
    scaled base number exponent = number * (base : ℚ) ^ exponent := by
  have nonzero : (base : ℚ) ≠ 0 := by exact_mod_cast positive.ne'
  have split : (base : ℚ) ^ exponent =
      (base : ℚ) ^ exponent.toNat / (base : ℚ) ^ (-exponent).toNat := by
    rw [← zpow_natCast, ← zpow_natCast, ← zpow_sub₀ nonzero]
    congr 1
    omega
  rw [scaled, split, Nat.pow_eq, Nat.pow_eq]
  push_cast
  ring

theorem scaled_mul_pow (number zeros : Nat) (exponent : Int) :
    scaled 10 (number * Nat.pow 10 zeros) exponent = scaled 10 number (exponent + zeros) := by
  rw [scaled_eq (by decide), scaled_eq (by decide), Nat.pow_eq, zpow_add₀ (by norm_num),
    zpow_natCast]
  push_cast
  ring

end Decimal

namespace Binary64

open Decimal

/-- A finite double in its one normal form. -/
structure IsNormal (number : Binary64) : Prop where
  bounded : number.significand < 2 * hiddenBit
  least : leastExponent ≤ number.exponent
  hidden : number.exponent ≠ leastExponent → hiddenBit ≤ number.significand

theorem isNormal_of_ofBits? {bits : Nat} {number : Binary64} (found : ofBits? bits = some number) :
    number.IsNormal := by
  have positive : 0 < hiddenBit := by decide
  have fraction := Nat.mod_lt bits positive
  simp only [ofBits?] at found
  split at found
  · cases found
  · split at found
    · cases found
      exact ⟨by dsimp only; omega, Int.le_refl _, fun other => absurd rfl other⟩
    · rename_i nonzero
      cases found
      exact ⟨by dsimp only; omega, by dsimp only; omega, fun _ => Nat.le_add_right _ _⟩

/-- The distance of a finite double from zero. -/
def magnitude (number : Binary64) : ℚ :=
  scaled 2 number.significand number.exponent

/-- Every other double is farther away from the value, or one is just as far away and the
significand is even. -/
structure NearestTo (number : Binary64) (value : ℚ) : Prop where
  above : ∀ other : Binary64, other.IsNormal → number.magnitude < other.magnitude →
    value + value < number.magnitude + other.magnitude ∨
      number.significand % 2 = 0 ∧ value + value = number.magnitude + other.magnitude
  below : ∀ other : Binary64, other.IsNormal → other.magnitude < number.magnitude →
    number.magnitude + other.magnitude < value + value ∨
      number.significand % 2 = 0 ∧ number.magnitude + other.magnitude = value + value

/-- Whether the next smaller double is only half as far away as the next larger one. -/
def IsNarrow (number : Binary64) : Prop :=
  number.significand = hiddenBit ∧ number.exponent ≠ leastExponent

instance (number : Binary64) : Decidable number.IsNarrow :=
  inferInstanceAs (Decidable (_ ∧ _))

section Neighbours

variable {number other : Binary64}

theorem magnitude_eq (number : Binary64) :
    number.magnitude = number.significand * (2 : ℚ) ^ number.exponent :=
  scaled_eq (by decide) _ _

theorem unit_pos (exponent : Int) : (0 : ℚ) < 2 ^ exponent :=
  zpow_pos (by norm_num) _

/-- Doubles with no smaller exponent are whole multiples of a unit in the last place. -/
theorem exists_multiple (coarser : number.exponent ≤ other.exponent) :
    ∃ count : Nat, other.magnitude = count * (2 : ℚ) ^ number.exponent := by
  refine ⟨other.significand * 2 ^ (other.exponent - number.exponent).toNat, ?_⟩
  have split : (2 : ℚ) ^ other.exponent =
      (2 : ℚ) ^ (other.exponent - number.exponent).toNat * (2 : ℚ) ^ number.exponent := by
    rw [← zpow_natCast, ← zpow_add₀ (by norm_num)]
    congr 1
    omega
  rw [magnitude_eq, split]
  push_cast
  ring

/-- Doubles of a smaller exponent stay below twice the hidden bit, counted in halves of a unit. -/
theorem magnitude_le_of_finer (otherNormal : other.IsNormal)
    (finer : other.exponent < number.exponent) :
    other.magnitude ≤ ((2 : ℚ) * hiddenBit - 1) * (2 : ℚ) ^ (number.exponent - 1) := by
  have scale : (2 : ℚ) ^ other.exponent ≤ (2 : ℚ) ^ (number.exponent - 1) :=
    zpow_le_zpow_right₀ (by norm_num) (by omega)
  have bound : (other.significand : ℚ) ≤ 2 * hiddenBit - 1 := by
    have below : other.significand + 1 ≤ 2 * hiddenBit := otherNormal.bounded
    have cast : (other.significand : ℚ) + 1 ≤ 2 * hiddenBit := by exact_mod_cast below
    linarith
  rw [magnitude_eq]
  exact mul_le_mul bound scale (unit_pos _).le (le_trans (Nat.cast_nonneg _) bound)

theorem unit_eq (exponent : Int) : (2 : ℚ) ^ exponent = 2 * (2 : ℚ) ^ (exponent - 1) := by
  rw [← zpow_one_add₀ (by norm_num)]
  congr 1
  omega

/-- A larger double is larger by a unit at least. -/
theorem add_unit_le (normal : number.IsNormal) (otherNormal : other.IsNormal)
    (larger : number.magnitude < other.magnitude) :
    number.magnitude + (2 : ℚ) ^ number.exponent ≤ other.magnitude := by
  have positive := unit_pos number.exponent
  rcases Int.lt_or_le other.exponent number.exponent with finer | coarser
  · have hidden := normal.hidden fun least => by
      have := otherNormal.least
      omega
    have hiddenCast : (hiddenBit : ℚ) ≤ number.significand := by exact_mod_cast hidden
    have below := magnitude_le_of_finer otherNormal finer
    rw [magnitude_eq, unit_eq] at larger
    nlinarith [unit_pos (number.exponent - 1)]
  · rcases exists_multiple coarser with ⟨count, shape⟩
    rw [shape, magnitude_eq] at larger ⊢
    have more : (number.significand : ℚ) < count := lt_of_mul_lt_mul_right larger positive.le
    have next : (number.significand : ℚ) + 1 ≤ count := by exact_mod_cast more
    nlinarith

/-- A smaller double is smaller by a unit at least, or by half a unit. -/
theorem add_gap_le (normal : number.IsNormal) (otherNormal : other.IsNormal)
    (smaller : other.magnitude < number.magnitude) :
    other.magnitude + (if number.IsNarrow then (2 : ℚ) ^ (number.exponent - 1)
      else (2 : ℚ) ^ number.exponent) ≤ number.magnitude := by
  have positive := unit_pos (number.exponent - 1)
  have whole := unit_eq number.exponent
  rcases Int.lt_or_le other.exponent number.exponent with finer | coarser
  · have unequal : number.exponent ≠ leastExponent := by
      have := otherNormal.least
      omega
    have hidden := normal.hidden unequal
    have below := magnitude_le_of_finer otherNormal finer
    rw [magnitude_eq number, whole]
    split
    · rename_i narrow
      rw [narrow.1]
      nlinarith
    · rename_i wide
      have more : hiddenBit + 1 ≤ number.significand :=
        Nat.lt_of_le_of_ne hidden fun same => wide ⟨same.symm, unequal⟩
      have moreCast : (hiddenBit : ℚ) + 1 ≤ number.significand := by exact_mod_cast more
      nlinarith
  · rcases exists_multiple coarser with ⟨count, shape⟩
    rw [shape, magnitude_eq] at smaller ⊢
    have more : (count : ℚ) < number.significand :=
      lt_of_mul_lt_mul_right smaller (unit_pos _).le
    have next : (count : ℚ) + 1 ≤ number.significand := by exact_mod_cast more
    split <;> nlinarith

end Neighbours

/-! ## The interval of a double -/

/-- A value between two bounds, themselves included if the significand is even. -/
def Between (number : Binary64) (low value high : ℚ) : Prop :=
  (low < value ∨ number.significand % 2 = 0 ∧ low = value) ∧
    (value < high ∨ number.significand % 2 = 0 ∧ value = high)

/-- The least value that may be read as the double, in quarters of a unit. -/
def lowQuarters (number : Binary64) : Nat :=
  if number.IsNarrow then 4 * number.significand - 1 else 4 * number.significand - 2

theorem quarters_eq (exponent : Int) : (2 : ℚ) ^ exponent = 4 * (2 : ℚ) ^ (exponent - 2) ∧
    (2 : ℚ) ^ (exponent - 1) = 2 * (2 : ℚ) ^ (exponent - 2) := by
  have half := unit_eq (exponent - 1)
  rw [show exponent - 1 - 1 = exponent - 2 by omega] at half
  refine ⟨?_, half⟩
  rw [unit_eq, half]
  ring

theorem nearestTo_of_between {number : Binary64} (normal : number.IsNormal)
    (positive : 0 < number.significand) {value : ℚ}
    (between : number.Between (number.lowQuarters * (2 : ℚ) ^ (number.exponent - 2)) value
      (((4 * number.significand + 2 : Nat) : ℚ) * (2 : ℚ) ^ (number.exponent - 2))) :
    number.NearestTo value := by
  rcases quarters_eq number.exponent with ⟨whole, half⟩
  rcases between with ⟨low, high⟩
  push_cast at high
  have size := magnitude_eq number
  generalize (2 : ℚ) ^ (number.exponent - 2) = quarter at whole half low high
  constructor
  · intro other otherNormal larger
    have next := add_unit_le normal otherNormal larger
    have above : (4 * (number.significand : ℚ) + 2) * quarter +
        (4 * (number.significand : ℚ) + 2) * quarter ≤ number.magnitude + other.magnitude := by
      rw [whole] at next size
      linarith
    rcases high with strict | ⟨even, same⟩
    · exact .inl (by linarith)
    · rcases above.lt_or_eq with strict | equal
      · exact .inl (by linarith)
      · exact .inr ⟨even, by linarith⟩
  · intro other otherNormal smaller
    have next := add_gap_le normal otherNormal smaller
    have below : number.magnitude + other.magnitude ≤
        number.lowQuarters * quarter + number.lowQuarters * quarter := by
      rw [lowQuarters]
      split at next
      · rename_i narrow
        rw [if_pos narrow, Nat.cast_sub (by omega)]
        push_cast
        rw [whole] at size
        rw [half] at next
        linarith
      · rename_i wide
        rw [if_neg wide, Nat.cast_sub (by omega)]
        push_cast
        rw [whole] at size next
        linarith
    rcases low with strict | ⟨even, same⟩
    · exact .inl (by linarith)
    · rcases below.lt_or_eq with strict | equal
      · exact .inl (by linarith)
      · exact .inr ⟨even, by linarith⟩

/-! ## The double of a value -/

/-- The normal form is one form for each distance from zero. -/
theorem IsNormal.eq_of_magnitude_eq {number other : Binary64} (normal : number.IsNormal)
    (otherNormal : other.IsNormal) (same : number.magnitude = other.magnitude) :
    number.significand = other.significand ∧ number.exponent = other.exponent := by
  have notFiner {finer coarser : Binary64} (finerNormal : finer.IsNormal)
      (coarserNormal : coarser.IsNormal) (equal : finer.magnitude = coarser.magnitude) :
      ¬ finer.exponent < coarser.exponent := by
    intro less
    have hidden := coarserNormal.hidden fun least => by
      have := finerNormal.least
      omega
    have hiddenCast : (hiddenBit : ℚ) ≤ coarser.significand := by exact_mod_cast hidden
    have below := magnitude_le_of_finer finerNormal less
    rw [equal, magnitude_eq, unit_eq] at below
    nlinarith [unit_pos (coarser.exponent - 1)]
  have exponents : number.exponent = other.exponent :=
    Int.le_antisymm (Int.not_lt.mp (notFiner otherNormal normal same.symm))
      (Int.not_lt.mp (notFiner normal otherNormal same))
  rw [magnitude_eq, magnitude_eq, exponents] at same
  exact ⟨by exact_mod_cast mul_right_cancel₀ (unit_pos _).ne' same, exponents⟩

theorem NearestTo.magnitude_le {number other : Binary64} (normal : number.IsNormal)
    (otherNormal : other.IsNormal) {value : ℚ} (nearest : number.NearestTo value)
    (otherNearest : other.NearestTo value) : other.magnitude ≤ number.magnitude := by
  refine not_lt.mp fun less => ?_
  rcases nearest.above other otherNormal less with strict | ⟨even, tie⟩
  · rcases otherNearest.below number normal less with strictly | ⟨-, equal⟩ <;> linarith
  · rcases otherNearest.below number normal less with strictly | ⟨otherEven, -⟩
    · linarith
    · -- Between two even significands lies an odd one, and its double would be closer.
      let next : Binary64 := ⟨number.negative, number.significand + 1, number.exponent⟩
      have bounded := normal.bounded
      have nextNormal : next.IsNormal :=
        ⟨by dsimp only [next]; omega, normal.least, fun other => by
          have := normal.hidden other
          dsimp only [next]
          omega⟩
      have size : next.magnitude = number.magnitude + (2 : ℚ) ^ number.exponent := by
        rw [magnitude_eq, magnitude_eq]
        dsimp only [next]
        push_cast
        ring
      have unit := unit_pos number.exponent
      have reached : next.magnitude ≤ other.magnitude :=
        size ▸ add_unit_le normal otherNormal less
      rcases reached.lt_or_eq with closer | same
      · rcases nearest.above next nextNormal (by linarith) with strict | ⟨-, equal⟩ <;> linarith
      · have odd := (nextNormal.eq_of_magnitude_eq otherNormal same).1
        dsimp only [next] at odd
        omega

/-- No value has two doubles nearest to it: reading a decimal to the nearest double is a
function. -/
theorem NearestTo.unique {number other : Binary64} (normal : number.IsNormal)
    (otherNormal : other.IsNormal) {value : ℚ} (nearest : number.NearestTo value)
    (otherNearest : other.NearestTo value) :
    number.significand = other.significand ∧ number.exponent = other.exponent :=
  normal.eq_of_magnitude_eq otherNormal (le_antisymm
    (otherNearest.magnitude_le otherNormal normal nearest)
    (nearest.magnitude_le normal otherNormal otherNearest))

end Binary64

namespace Decimal

open Binary64

/-! ## Candidates -/

theorem within_iff {closed : Bool} {low candidate high : Nat} :
    within closed low candidate high = true ↔
      (low < candidate ∨ closed = true ∧ low = candidate) ∧
        (candidate < high ∨ closed = true ∧ candidate = high) := by
  cases closed with
  | true => simp [within, Nat.le_iff_lt_or_eq]
  | false => simp [within]

/-- A neighbour that is taken lies in the interval. -/
theorem within_of_neighbour? {closed : Bool} {unit low center high digits : Nat}
    (found : neighbour? closed unit low center high = some digits) :
    within closed low (digits * unit) high = true := by
  simp only [neighbour?] at found
  split at found
  · cases found
  · rename_i inside _
    cases found
    exact inside
  · rename_i _ inside
    cases found
    exact inside
  · rename_i below above
    split at found
    · cases found
      exact below
    · cases found
      exact above

/-- One of two neighbours lies in an interval around the number that is wider than their
distance. -/
theorem exists_neighbour? (closed : Bool) {unit low center high : Nat} (positive : 0 < unit)
    (left : low < center) (right : center < high) (wide : low + unit < high) :
    ∃ digits, neighbour? closed unit low center high = some digits := by
  simp only [neighbour?]
  have below : center / unit * unit ≤ center := Nat.div_mul_le_self _ _
  have above : center < (center / unit + 1) * unit := by
    rw [Nat.add_mul, Nat.one_mul]
    exact Nat.lt_div_mul_add positive
  have apart : (center / unit + 1) * unit = center / unit * unit + unit := by
    rw [Nat.add_mul, Nat.one_mul]
  split
  · rename_i outsideBelow outsideAbove
    rw [← Bool.not_eq_true, within_iff] at outsideBelow outsideAbove
    exfalso
    apply outsideBelow
    refine ⟨.inl ?_, .inl (by omega)⟩
    by_contra short
    exact outsideAbove ⟨.inl (by omega), .inl (by omega)⟩
  · exact ⟨_, rfl⟩
  · exact ⟨_, rfl⟩
  · split <;> exact ⟨_, rfl⟩

/-! ## Grids

Candidates are compared with the double in whole multiples of one common fraction. -/

/-- The step of the decimal grid, in common fractions. -/
def gridUnit (number : Binary64) (scale : Int) : Nat :=
  Nat.pow 10 scale.toNat * Nat.pow 2 (-(number.exponent - 2)).toNat

/-- A quarter of the double's unit, in common fractions. -/
def gridFactor (number : Binary64) (scale : Int) : Nat :=
  Nat.pow 2 (number.exponent - 2).toNat * Nat.pow 10 (-scale).toNat

theorem withDigits?_eq (number : Binary64) (place : Int) (count : Nat) :
    withDigits? number place count =
      (neighbour? (number.significand % 2 == 0) (gridUnit number (place - count))
        (number.lowQuarters * gridFactor number (place - count))
        (4 * number.significand * gridFactor number (place - count))
        ((4 * number.significand + 2) * gridFactor number (place - count))).map
        fun digits => ⟨digits, place - count⟩ := rfl

section Grid

variable (number : Binary64) (scale : Int)

theorem gridUnit_pos : 0 < gridUnit number scale :=
  Nat.mul_pos (Nat.pow_pos (by decide)) (Nat.pow_pos (by decide))

theorem gridFactor_pos : 0 < gridFactor number scale :=
  Nat.mul_pos (Nat.pow_pos (by decide)) (Nat.pow_pos (by decide))

theorem exists_fraction : ∃ fraction : ℚ, 0 < fraction ∧
    (∀ digits : Nat, ((digits * gridUnit number scale : Nat) : ℚ) =
      fraction * (digits * 10 ^ scale)) ∧
    ∀ quarters : Nat, ((quarters * gridFactor number scale : Nat) : ℚ) =
      fraction * (quarters * 2 ^ (number.exponent - 2)) := by
  have power (base : ℚ) (nonzero : base ≠ 0) (exponent : Int) :
      base ^ exponent.toNat = base ^ (-exponent).toNat * base ^ exponent := by
    rw [← zpow_natCast, ← zpow_natCast, ← zpow_add₀ nonzero]
    congr 1
    omega
  refine ⟨2 ^ (-(number.exponent - 2)).toNat * 10 ^ (-scale).toNat, by positivity,
    fun digits => ?_, fun quarters => ?_⟩
  · rw [gridUnit, Nat.pow_eq, Nat.pow_eq]
    push_cast
    rw [power 10 (by norm_num) scale]
    ring
  · rw [gridFactor, Nat.pow_eq, Nat.pow_eq]
    push_cast
    rw [power 2 (by norm_num) (number.exponent - 2)]
    ring

end Grid

/-- What lies between two multiples on the grid lies between the values they stand for. -/
theorem between_of_within {number : Binary64} {scale : Int} {low digits high : Nat}
    (inside : within (number.significand % 2 == 0) (low * gridFactor number scale)
      (digits * gridUnit number scale) (high * gridFactor number scale) = true) :
    number.Between (low * (2 : ℚ) ^ (number.exponent - 2)) (scaled 10 digits scale)
      (high * (2 : ℚ) ^ (number.exponent - 2)) := by
  rcases exists_fraction number scale with ⟨fraction, positive, unit, factor⟩
  have below (quarters : Nat) :
      (quarters * gridFactor number scale < digits * gridUnit number scale ↔
        (quarters : ℚ) * 2 ^ (number.exponent - 2) < digits * 10 ^ scale) := by
    rw [← Nat.cast_lt (α := ℚ), unit, factor, mul_lt_mul_iff_right₀ positive]
  have above (quarters : Nat) :
      (digits * gridUnit number scale < quarters * gridFactor number scale ↔
        (digits : ℚ) * 10 ^ scale < quarters * 2 ^ (number.exponent - 2)) := by
    rw [← Nat.cast_lt (α := ℚ), unit, factor, mul_lt_mul_iff_right₀ positive]
  have equal (quarters : Nat) :
      (quarters * gridFactor number scale = digits * gridUnit number scale ↔
        (quarters : ℚ) * 2 ^ (number.exponent - 2) = digits * 10 ^ scale) := by
    rw [← Nat.cast_inj (R := ℚ), unit, factor, mul_right_inj' positive.ne']
  have denoted := scaled_eq (by decide : 0 < 10) digits scale
  push_cast at denoted
  rw [within_iff, below, above, equal, @eq_comm Nat, equal, beq_iff_eq] at inside
  rw [Between, denoted, @eq_comm ℚ (_ * 10 ^ scale)]
  exact inside

theorem between_of_withDigits? {number : Binary64} (positive : 0 < number.significand)
    {place : Int} {count : Nat} {decimal : Decimal}
    (found : withDigits? number place count = some decimal) :
    0 < decimal.digits ∧
      number.Between (number.lowQuarters * (2 : ℚ) ^ (number.exponent - 2))
        (scaled 10 decimal.digits decimal.scale)
        (((4 * number.significand + 2 : Nat) : ℚ) * (2 : ℚ) ^ (number.exponent - 2)) := by
  rw [withDigits?_eq] at found
  rcases Option.map_eq_some_iff.mp found with ⟨digits, taken, rfl⟩
  have inside := within_of_neighbour? taken
  have nonzero : digits ≠ 0 := by
    rintro rfl
    have lowPositive : 0 < number.lowQuarters := by
      rw [lowQuarters]
      split <;> omega
    have product := Nat.mul_pos lowPositive (gridFactor_pos number (place - count))
    have low := (within_iff.mp inside).1
    rw [Nat.zero_mul] at low
    omega
  exact ⟨Nat.pos_of_ne_zero nonzero, between_of_within inside⟩

/-- With seventeen digits the step of the grid is no more than the number divided by 10 ^ 16. -/
theorem gridUnit_le {number : Binary64} {place : Int}
    (reached : (10 : ℚ) ^ (place - 1) ≤ number.magnitude) :
    10000000000000000 * gridUnit number (place - (17 : Nat)) ≤
      4 * number.significand * gridFactor number (place - (17 : Nat)) := by
  rcases exists_fraction number (place - (17 : Nat)) with ⟨fraction, positive, unit, factor⟩
  have split : (10 : ℚ) ^ (place - 1) = 10 ^ 16 * 10 ^ (place - (17 : Nat)) := by
    rw [← zpow_natCast, ← zpow_add₀ (by norm_num)]
    congr 1
    omega
  rw [split, magnitude_eq, (quarters_eq number.exponent).1] at reached
  have cast : ((10000000000000000 * gridUnit number (place - (17 : Nat)) : Nat) : ℚ) ≤
      (4 * number.significand * gridFactor number (place - (17 : Nat)) : Nat) := by
    rw [unit, factor]
    refine mul_le_mul_of_nonneg_left ?_ positive.le
    push_cast at reached ⊢
    linarith
  exact_mod_cast cast

/-- Seventeen digits from the first significant one on leave a candidate. -/
theorem exists_withDigits? {number : Binary64} (normal : number.IsNormal)
    (positive : 0 < number.significand) {place : Int}
    (reached : (10 : ℚ) ^ (place - 1) ≤ number.magnitude) :
    ∃ decimal, withDigits? number place sufficientDigits = some decimal := by
  have grid := gridUnit_le reached
  have unitPositive := gridUnit_pos number (place - (17 : Nat))
  have factorPositive := gridFactor_pos number (place - (17 : Nat))
  have small : number.significand < 9007199254740992 := normal.bounded
  have left : number.lowQuarters < 4 * number.significand := by
    rw [lowQuarters]
    split <;> omega
  have wide : number.lowQuarters * gridFactor number (place - (17 : Nat)) +
      gridUnit number (place - (17 : Nat)) <
        (4 * number.significand + 2) * gridFactor number (place - (17 : Nat)) := by
    rw [lowQuarters]
    generalize gridFactor number (place - (17 : Nat)) = factor at grid factorPositive ⊢
    split
    · rename_i narrow
      have hidden : number.significand = 4503599627370496 := narrow.1
      rw [hidden] at grid ⊢
      omega
    · have spread : (4 * number.significand + 2) * factor =
          (4 * number.significand - 2) * factor + 4 * factor := by
        rw [← Nat.add_mul]
        congr 1
        omega
      have bound : 4 * number.significand * factor ≤ 4 * 9007199254740992 * factor :=
        Nat.mul_le_mul_right _ (by omega)
      omega
  rcases exists_neighbour? (number.significand % 2 == 0) unitPositive
    (Nat.mul_lt_mul_of_pos_right left factorPositive)
    (Nat.mul_lt_mul_of_pos_right (by omega) factorPositive) wide with ⟨digits, taken⟩
  exact ⟨_, by rw [withDigits?_eq, sufficientDigits, taken, Option.map_some]⟩

/-! ## The first digit -/

/-- A number has as many figures as its size demands. -/
theorem tenPow_le_of_natural {number : Nat} (positive : 0 < number) :
    Nat.pow 10 ((natural number).length - 1) ≤ number := by
  by_contra small
  have large : 0 < (natural number).length - 1 := by
    rcases Nat.eq_zero_or_pos ((natural number).length - 1) with zero | some
    · rw [zero] at small
      exact absurd positive small
    · exact some
  have shorter := length_natural_le (Nat.lt_of_not_le small) large
  omega

/-- A shift by a third of the binary places is enough, since eight is less than ten. -/
theorem denominator_le_of_shift {number : Binary64} (positive : 0 < number.significand)
    {shift : Nat} (enough : (-number.exponent).toNat ≤ 3 * shift) :
    number.ratio.2 ≤ number.ratio.1 * Nat.pow 10 shift := by
  have eight : Nat.pow 2 (3 * shift) = Nat.pow 8 shift := Nat.pow_mul 2 3 shift
  calc Nat.pow 2 (-number.exponent).toNat
      _ ≤ Nat.pow 2 (3 * shift) := Nat.pow_le_pow_right (by decide) enough
      _ = Nat.pow 8 shift := eight
      _ ≤ Nat.pow 10 shift := Nat.pow_le_pow_left (by decide) shift
      _ ≤ number.significand * Nat.pow 2 number.exponent.toNat * Nat.pow 10 shift :=
        Nat.le_mul_of_pos_left _ (Nat.mul_pos positive (Nat.pow_pos (by decide)))

/-- No finite double is so small that the shift does not bring it to one. -/
theorem denominator_le {number : Binary64} (normal : number.IsNormal)
    (positive : 0 < number.significand) :
    number.ratio.2 ≤ number.ratio.1 * Nat.pow 10 magnitudeShift := by
  refine denominator_le_of_shift positive ?_
  have bound := normal.least
  simp only [leastExponent] at bound
  simp only [magnitudeShift]
  omega

theorem tenPow_point_le {number : Binary64} (normal : number.IsNormal)
    (positive : 0 < number.significand) :
    (10 : ℚ) ^ (point number - 1) ≤ number.magnitude := by
  have denominatorPositive : 0 < number.ratio.2 := Nat.pow_pos (by decide)
  have shifted : 0 < number.ratio.1 * Nat.pow 10 magnitudeShift / number.ratio.2 :=
    Nat.div_pos (denominator_le normal positive) denominatorPositive
  have digits := tenPow_le_of_natural shifted
  have length := List.length_pos_iff.mpr
    (natural_ne_nil (number.ratio.1 * Nat.pow 10 magnitudeShift / number.ratio.2))
  have same : point number = ((natural
      (number.ratio.1 * Nat.pow 10 magnitudeShift / number.ratio.2)).length : Int) -
        magnitudeShift := rfl
  have size : number.magnitude = (number.ratio.1 : ℚ) / number.ratio.2 := rfl
  generalize (natural (number.ratio.1 * Nat.pow 10 magnitudeShift / number.ratio.2)).length = count
    at digits length same
  have product : Nat.pow 10 (count - 1) * number.ratio.2 ≤
      number.ratio.1 * Nat.pow 10 magnitudeShift :=
    (Nat.le_div_iff_mul_le denominatorPositive).mp digits
  have split : (10 : ℚ) ^ (point number - 1) * 10 ^ magnitudeShift = 10 ^ (count - 1) := by
    rw [← zpow_natCast, ← zpow_natCast, ← zpow_add₀ (by norm_num), same]
    congr 1
    omega
  have denominatorCast : (0 : ℚ) < number.ratio.2 := by exact_mod_cast denominatorPositive
  rw [size, le_div_iff₀ denominatorCast]
  have cast : ((Nat.pow 10 (count - 1) * number.ratio.2 : Nat) : ℚ) ≤
      (number.ratio.1 * Nat.pow 10 magnitudeShift : Nat) := by exact_mod_cast product
  rw [Nat.pow_eq, Nat.pow_eq] at cast
  push_cast at cast
  rw [← split] at cast
  have shift : (0 : ℚ) < 10 ^ magnitudeShift := by positivity
  nlinarith

/-- The shortest decimal is nearest to its double. -/
theorem shortest_nearest {number : Binary64} (normal : number.IsNormal)
    (positive : 0 < number.significand) :
    0 < (shortest number).digits ∧
      number.NearestTo (scaled 10 (shortest number).digits (shortest number).scale) := by
  have last := exists_withDigits? normal positive (tenPow_point_le normal positive)
  have some : ((List.range sufficientDigits).findSome? fun index =>
      withDigits? number (point number) (index + 1)).isSome = true := by
    rw [List.findSome?_isSome_iff]
    refine ⟨16, by decide, ?_⟩
    rw [Option.isSome_iff_exists]
    exact last
  rcases Option.isSome_iff_exists.mp some with ⟨decimal, found⟩
  rcases List.exists_of_findSome?_eq_some found with ⟨index, -, taken⟩
  rcases between_of_withDigits? positive taken with ⟨digits, between⟩
  have same : shortest number = decimal := by
    rw [shortest, found]
    rfl
  rw [same]
  exact ⟨digits, nearestTo_of_between normal positive between⟩

end Decimal

end SchemaSeed
