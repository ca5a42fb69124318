import SchemaSeed.Proofs.Decimal.Spelled
import SchemaSeed.Proofs.Random.Draws
import SchemaSeed.Proofs.RowSet.Literals

/-! Generated numbers beside the types that are to hold them.  Whole numbers lie within the
range of their type, apart from signed numbers of eight bytes, which are given numbers of the
unsigned range.  Decimal numbers keep within the digits of their column, whatever scale of up
to three places they are rounded to. -/

namespace SchemaSeed

namespace Literal.IntegerRange

def Holds (range : IntegerRange) (number : Int) : Prop :=
  range.least ≤ number ∧ number ≤ range.greatest

instance (range : IntegerRange) (number : Int) : Decidable (range.Holds number) :=
  inferInstanceAs (Decidable (_ ∧ _))

/-- The numbers that so many bytes hold, in two's complement if they are signed. -/
def ofBytes (bytes : Nat) (unsigned : Bool) : IntegerRange :=
  if unsigned then ⟨0, (Nat.pow 2 (8 * bytes) : Int) - 1⟩
  else ⟨-(Nat.pow 2 (8 * bytes - 1) : Int), (Nat.pow 2 (8 * bytes - 1) : Int) - 1⟩

/-- A range that is not empty and lies inside of another one. -/
structure Within (inner outer : IntegerRange) : Prop where
  ordered : inner.least ≤ inner.greatest
  least : outer.least ≤ inner.least
  greatest : inner.greatest ≤ outer.greatest

theorem Within.holds {inner outer : IntegerRange} (within : inner.Within outer) {number : Int}
    (holds : inner.Holds number) : outer.Holds number :=
  ⟨Int.le_trans within.least holds.1, Int.le_trans holds.2 within.greatest⟩

theorem tiny_within (unsigned : Bool) : (tiny unsigned).Within (ofBytes 1 unsigned) := by
  cases unsigned <;> constructor <;> decide

theorem small_within (unsigned : Bool) : (small unsigned).Within (ofBytes 2 unsigned) := by
  cases unsigned <;> constructor <;> decide

theorem medium_within (unsigned : Bool) : (medium unsigned).Within (ofBytes 3 unsigned) := by
  cases unsigned <;> constructor <;> decide

theorem standard_within (unsigned : Bool) : (standard unsigned).Within (ofBytes 4 unsigned) := by
  cases unsigned <;> constructor <;> decide

theorem holds_eight_unsigned {number : Int} :
    (ofBytes 8 true).Holds number ↔ 0 ≤ number ∧ number < 18446744073709551616 := by
  have range : ofBytes 8 true = ⟨0, 18446744073709551615⟩ := by decide
  simp only [range, Holds]
  omega

theorem holds_eight_signed {number : Int} :
    (ofBytes 8 false).Holds number ↔
      -9223372036854775808 ≤ number ∧ number < 9223372036854775808 := by
  have range : ofBytes 8 false = ⟨-9223372036854775808, 9223372036854775807⟩ := by decide
  simp only [range, Holds]
  omega

end Literal.IntegerRange

/-- The bytes in which a server stores the whole numbers of a category. -/
def Category.bytes? : Category → Option Nat
  | .int8 => some 1
  | .int16 => some 2
  | .int24 => some 3
  | .int32 => some 4
  | .int64 => some 8
  | _ => none

namespace Generator

open Literal

variable {State : Type u} {generator : Generator State}

/-! ## Whole numbers -/

theorem spelled?_integer (bounded : generator.source.Bounded) {range outer : IntegerRange}
    (within : range.Within outer) (state : State) :
    ∃ number, Decimal.spelled? (generator.integer range state).1 = some number ∧
      outer.Holds number := by
  have drawn := bounded state within.ordered
  simp only [integer]
  split
  · exact ⟨_, Decimal.spelled?_integer _, within.holds drawn⟩
  · exact ⟨_, Decimal.spelled?_integer _, within.holds ⟨within.ordered, Int.le_refl _⟩⟩

/-- Every draw of a digit gives one figure. -/
theorem figures_digits (bounded : generator.source.Bounded) (count : Nat) (state : State) :
    (generator.digits count state).1.length = count ∧
      ∀ character ∈ (generator.digits count state).1, character ∈ Decimal.figures := by
  induction count generalizing state with
  | zero => exact ⟨rfl, by rintro character ⟨⟩⟩
  | succ count induction =>
      have drawn : 0 ≤ (generator.source.between 0 9 state).1 ∧
          (generator.source.between 0 9 state).1 ≤ 9 := bounded state (by decide)
      have digit : (generator.source.between 0 9 state).1.natAbs < 10 := by omega
      rcases induction (generator.source.between 0 9 state).2 with ⟨length, known⟩
      simp only [digits, Decimal.integer_of_nonneg drawn.1, Decimal.natural_of_lt digit]
      refine ⟨by rw [List.length_append, length, Nat.add_comm]; rfl, ?_⟩
      intro character member
      rcases List.mem_append.mp member with first | later
      · rw [List.mem_singleton] at first
        rw [first]
        exact Decimal.digitChar_mem_figures digit
      · exact known character later

theorem spelled?_bigInteger (bounded : generator.source.Bounded) (state : State) :
    ∃ number : Nat, Decimal.spelled? (generator.bigInteger state).1 = some (number : Int) ∧
      number < Nat.pow 2 64 ∧
      (if generator.policy.randomized then (generator.bigInteger state).1.length = bigDigits
        else (number : Int) = 18446744073708551616) := by
  simp only [bigInteger]
  split
  · rcases figures_digits bounded bigDigits state with ⟨length, known⟩
    have figured : Decimal.Figured (generator.digits bigDigits state).1 := by
      refine ⟨fun empty => ?_, known⟩
      rw [empty] at length
      cases length
    have small := Decimal.value_lt (generator.digits bigDigits state).1
    have fits : Nat.pow 10 bigDigits ≤ Nat.pow 2 64 := by decide
    rw [length] at small
    exact ⟨_, figured.spelled?, Nat.lt_of_lt_of_le small fits, length⟩
  · have spelled : Decimal.spelled? bigFixed = some 18446744073708551616 := by decide
    exact ⟨18446744073708551616, spelled, by decide, rfl⟩

/-- Up to four bytes, a category is a range inside of that of its type. -/
theorem exists_range (generator : Generator State) (column : Column) {category : Category}
    {bytes : Nat} (whole : category.bytes? = some bytes) (other : category ≠ .int64) :
    ∃ range : IntegerRange, range.Within (.ofBytes bytes column.unsigned) ∧
      ∀ state, generator.literal column category state =
        (.ok (generator.integer range state).1, (generator.integer range state).2) := by
  cases category <;> cases whole
  case int8 => exact ⟨_, IntegerRange.tiny_within _, fun _ => rfl⟩
  case int16 => exact ⟨_, IntegerRange.small_within _, fun _ => rfl⟩
  case int24 => exact ⟨_, IntegerRange.medium_within _, fun _ => rfl⟩
  case int32 => exact ⟨_, IntegerRange.standard_within _, fun _ => rfl⟩
  case int64 => exact absurd rfl other

/-- The numbers of all categories of whole numbers. -/
theorem spelled?_literal (bounded : generator.source.Bounded) (column : Column)
    {category : Category} {bytes : Nat} (whole : category.bytes? = some bytes) (state : State) :
    ∃ literal after number,
      generator.literal column category state = (.ok literal, after) ∧
      Decimal.spelled? literal = some number ∧
      (category ≠ .int64 → (IntegerRange.ofBytes bytes column.unsigned).Holds number) ∧
      (category = .int64 → bytes = 8 ∧ 0 ≤ number ∧ number < 18446744073709551616 ∧
        if generator.policy.randomized then literal.length = bigDigits
        else number = 18446744073708551616) := by
  by_cases eight : category = .int64
  · subst eight
    cases whole
    rcases spelled?_bigInteger bounded state with ⟨number, spelled, small, written⟩
    have power : Nat.pow 2 64 = 18446744073709551616 := by decide
    rw [power] at small
    exact ⟨_, _, number, rfl, spelled, absurd rfl,
      fun _ => ⟨rfl, Int.natCast_nonneg number, by omega, written⟩⟩
  · rcases exists_range generator column whole eight with ⟨range, within, written⟩
    rcases spelled?_integer bounded within state with ⟨number, spelled, holds⟩
    exact ⟨_, _, number, written state, spelled, fun _ => holds, fun big => absurd big eight⟩

/-- A column of a supported category is given the literal of that category. -/
theorem generate_of_literal {column : Column} {category : Category}
    (known : column.category = some category) {state after : State} {literal : Text}
    (written : generator.literal column category state = (.ok literal, after)) :
    generator.generate column state = (.ok (some literal), after) := by
  simp only [generate, known, written, Except.map]

/-- Every whole number fits the type of its column, except that a signed number of eight bytes
may be one that only the unsigned type holds: it has nineteen digits of any kind, or is a number
close to the greatest of the unsigned type. -/
theorem whole_number_fits_its_type (bounded : generator.source.Bounded) {column : Column}
    {category : Category} {bytes : Nat} (known : column.category = some category)
    (whole : category.bytes? = some bytes) (state : State) :
    ∃ literal after number, generator.generate column state = (.ok (some literal), after) ∧
      Decimal.spelled? literal = some number ∧
      ((IntegerRange.ofBytes bytes column.unsigned).Holds number ↔
        ¬ (category = .int64 ∧ column.unsigned = false ∧ 9223372036854775808 ≤ number)) ∧
      (category = .int64 → (IntegerRange.ofBytes bytes true).Holds number ∧
        if generator.policy.randomized then literal.length = bigDigits
        else number = 18446744073708551616) := by
  rcases spelled?_literal bounded column whole state with
    ⟨literal, after, number, written, spelled, fits, big⟩
  refine ⟨literal, after, number, generate_of_literal known written, spelled, ?_, fun eight => ?_⟩
  · by_cases eight : category = .int64
    · rcases big eight with ⟨rfl, nonneg, small, -⟩
      cases column.unsigned with
      | true => exact iff_of_true (IntegerRange.holds_eight_unsigned.mpr ⟨nonneg, small⟩) (by simp)
      | false =>
          rw [IntegerRange.holds_eight_signed]
          simp only [eight, true_and]
          omega
    · exact iff_of_true (fits eight) fun other => eight other.1
  · rcases big eight with ⟨rfl, nonneg, small, figures⟩
    exact ⟨IntegerRange.holds_eight_unsigned.mpr ⟨nonneg, small⟩, figures⟩

/-- The least draws of a signed medium number. -/
theorem least_medium_number_fits :
    let column : Column := ⟨"n", some .int24, some 0, false, []⟩
    let generator : Generator Script :=
      ⟨Policy.default, ⟨2024, 2, 29, 13, 45, 7⟩, Script.source⟩
    generator.source.Bounded ∧ column.category = some .int24 ∧ Category.bytes? .int24 = some 3 ∧
      ∃ literal after number,
        generator.generate column ⟨#[0], 0⟩ = (.ok (some literal), after) ∧
          Decimal.spelled? literal = some number ∧
          (IntegerRange.ofBytes 3 false).Holds number := by
  intro column generator
  have bounded : generator.source.Bounded := Script.bounded
  have known : column.category = some .int24 := rfl
  rcases whole_number_fits_its_type bounded known rfl ⟨#[0], 0⟩ with
    ⟨literal, after, number, generated, spelled, fits, -⟩
  exact ⟨bounded, known, rfl, literal, after, number, generated, spelled,
    fits.mpr fun big => Category.noConfusion big.1⟩

/-- In either mode a signed column of eight bytes is given numbers that it cannot hold. -/
theorem signed_big_number_does_not_fit :
    let column : Column := ⟨"n", some .int64, some 0, false, []⟩
    let fixed : Generator Script :=
      ⟨⟨1, false, 33, 126, by decide, by decide, by decide⟩, ⟨2024, 2, 29, 13, 45, 7⟩,
        Script.source⟩
    let random : Generator Script :=
      ⟨Policy.default, ⟨2024, 2, 29, 13, 45, 7⟩, Script.source⟩
    (fixed.generate column ⟨#[0], 0⟩).1.toOption = some (some "18446744073708551616".toList) ∧
      Decimal.spelled? "18446744073708551616" = some 18446744073708551616 ∧
      ¬ (IntegerRange.ofBytes 8 column.unsigned).Holds 18446744073708551616 ∧
      (random.generate column ⟨#[9], 0⟩).1.toOption = some (some "9999999999999999999".toList) ∧
      Decimal.spelled? "9999999999999999999" = some 9999999999999999999 ∧
      ¬ (IntegerRange.ofBytes 8 column.unsigned).Holds 9999999999999999999 := by
  intro column fixed random
  refine ⟨rfl, by decide, by decide, by decide, by decide, by decide⟩

/-! ## Decimal numbers -/

/-- A numeral with a whole part of at most so many figures, and one or two figures behind the
point. -/
structure IsDecimal (width : Nat) (whole fraction : Text) : Prop where
  figuredWhole : Decimal.Figured whole
  figuredFraction : Decimal.Figured fraction
  lengthWhole : whole.length ≤ width
  lengthFraction : fraction.length = 1 ∨ fraction.length = 2

theorem figured_fraction {number : Int} (least : 0 ≤ number) (greatest : number ≤ 99) :
    Decimal.Figured (Decimal.integer number) ∧
      ((Decimal.integer number).length = 1 ∨ (Decimal.integer number).length = 2) := by
  have small : number.natAbs < Nat.pow 10 2 := by
    have limit : Nat.pow 10 2 = 100 := rfl
    omega
  rw [Decimal.integer_of_nonneg least]
  have figured := Decimal.figured_natural number.natAbs
  have longest := Decimal.length_natural_le small (by decide)
  have shortest := List.length_pos_iff.mpr figured.nonempty
  exact ⟨figured, by omega⟩

theorem isDecimal_drawn {width : Nat} (positive : 0 < width) {whole fraction : Int}
    (wholeDrawn : 0 ≤ whole ∧ whole ≤ (Nat.pow 10 width : Int) - 1)
    (fractionDrawn : 0 ≤ fraction ∧ fraction ≤ 99) :
    IsDecimal width (Decimal.integer whole) (Decimal.integer fraction) := by
  rcases figured_fraction fractionDrawn.1 fractionDrawn.2 with ⟨figured, length⟩
  rw [Decimal.integer_of_nonneg wholeDrawn.1]
  exact ⟨Decimal.figured_natural _, figured, Decimal.length_natural_le (by omega) positive, length⟩

theorem isDecimal_fixed {width : Nat} (positive : 0 < width) :
    IsDecimal width (List.replicate width '9') ['5', '0'] where
  figuredWhole := by
    refine ⟨by simp; omega, fun character member => ?_⟩
    rw [List.eq_of_mem_replicate member]
    decide
  figuredFraction := ⟨by rintro ⟨⟩, by decide⟩
  lengthWhole := Nat.le_of_eq List.length_replicate
  lengthFraction := .inr rfl

theorem decimal_eq_ok (bounded : generator.source.Bounded) {length : Nat} {state after : State}
    {literal : Text} (written : generator.decimal length state = (.ok literal, after)) :
    ∃ whole fraction, literal = quote (whole ++ '.' :: fraction) ∧
      IsDecimal (decimalWidth length) whole fraction := by
  have positive : 0 < decimalWidth length := Nat.le_max_right _ _
  have large : 0 < Nat.pow 10 (decimalWidth length) := Nat.pow_pos (by decide)
  simp only [decimal] at written
  split at written
  · split at written
    · cases written
    · cases written
      exact ⟨_, _, congrArg quote (List.append_assoc _ _ _),
        isDecimal_drawn positive (bounded _ (by omega)) (bounded _ (by decide))⟩
  · cases copied : copies (decimalWidth length) '9' with
    | error fault =>
        rw [copied] at written
        cases written
    | ok text =>
        rw [copied] at written
        cases written
        rw [eq_replicate_of_copies copied]
        exact ⟨_, _, rfl, isDecimal_fixed positive⟩

/-- Rounding to up to three places does not carry such a numeral beyond so many digits before
the point and three more. -/
theorem IsDecimal.units_lt {width places : Nat} {whole fraction : Text}
    (isDecimal : IsDecimal width whole fraction) (few : places ≤ 3) :
    Decimal.units whole fraction places < Nat.pow 10 (width + 3) := by
  have wholeBound : Decimal.value whole < Nat.pow 10 width :=
    Nat.lt_of_lt_of_le (Decimal.value_lt whole)
      (Nat.pow_le_pow_right (by decide) isDecimal.lengthWhole)
  have fractionBound := Decimal.value_lt fraction
  have denominator : Nat.pow 10 fraction.length = 10 ∨ Nat.pow 10 fraction.length = 100 :=
    isDecimal.lengthFraction.imp (congrArg (Nat.pow 10)) (congrArg (Nat.pow 10))
  have scale : Nat.pow 10 places ≤ 1000 := Nat.pow_le_pow_right (by decide) few
  have wide : Nat.pow 10 (width + 3) = Nat.pow 10 width * 1000 := Nat.pow_add 10 width 3
  rw [Decimal.units, wide]
  generalize Nat.pow 10 width = limit at wholeBound
  generalize Nat.pow 10 fraction.length = unit at fractionBound denominator
  have scaled := Nat.mul_le_mul_left (Decimal.value whole * unit + Decimal.value fraction) scale
  -- The numeral stays below the limit by a hundredth at least.  At the finest scale that is ten
  -- units, more than the half that rounding can add.
  refine (Nat.le_sub_one_iff_lt (by omega)).mp ?_
  refine (Decimal.roundHalfUp_le_iff (by omega)).mpr ?_
  rcases denominator with rfl | rfl <;> omega

/-- A decimal number is given as a quoted numeral.  Three of the digits of its column stay free,
so that it fits the column at every scale of up to three places. -/
theorem decimal_fits_its_column (bounded : generator.source.Bounded) {column : Column}
    (known : column.category = some .decimal) {precision scale : Nat}
    (declared : column.length = some precision) (wide : 4 ≤ precision) (narrow : scale ≤ 3)
    {state after : State} {written : Option Text}
    (generated : generator.generate column state = (.ok written, after)) :
    ∃ whole fraction, written = some (quote (whole ++ '.' :: fraction)) ∧
      IsDecimal (precision - 3) whole fraction ∧
      Decimal.units whole fraction scale ≤ Nat.pow 10 precision - 1 := by
  rcases generator.generate_eq_ok known generated with ⟨literal, rfl, drawn⟩
  simp only [Generator.literal, declared, Option.getD_some] at drawn
  rcases decimal_eq_ok bounded drawn with ⟨whole, fraction, rfl, isDecimal⟩
  have width : decimalWidth precision = precision - 3 :=
    Nat.max_eq_left (Nat.le_sub_of_add_le wide)
  rw [width] at isDecimal
  have fits := isDecimal.units_lt narrow
  rw [Nat.sub_add_cancel (Nat.le_of_succ_le wide)] at fits
  exact ⟨whole, fraction, rfl, isDecimal, Nat.le_pred_of_lt fits⟩

/-- Without places, the placeholder of a column of five digits becomes a hundred. -/
theorem placeholder_decimal_fits :
    let column : Column := ⟨"d", some .decimal, some 5, false, []⟩
    let generator : Generator Script :=
      ⟨⟨1, false, 33, 126, by decide, by decide, by decide⟩, ⟨2024, 2, 29, 13, 45, 7⟩,
        Script.source⟩
    generator.source.Bounded ∧
      (generator.generate column ⟨#[0], 0⟩).1.toOption = some (some "\"99.50\"".toList) ∧
      ∃ whole fraction, some "\"99.50\"".toList = some (quote (whole ++ '.' :: fraction)) ∧
        IsDecimal 2 whole fraction ∧ Decimal.units whole fraction 0 ≤ 99999 := by
  intro column generator
  have generated : generator.generate column ⟨#[0], 0⟩ =
      (.ok (some "\"99.50\"".toList), ⟨#[0], 0⟩) := rfl
  exact ⟨Script.bounded, congrArg (·.1.toOption) generated,
    decimal_fits_its_column Script.bounded rfl rfl (by decide) (by decide) generated⟩

end Generator

end SchemaSeed
