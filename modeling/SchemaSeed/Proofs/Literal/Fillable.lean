import SchemaSeed.Column.Classify
import SchemaSeed.Proofs.Literal.Numbers

/-! Columns that can be filled.  Category, length and members of a column that was read from a
declaration fit together, and for such a column there is a literal in every state of the random
source, unless its length is out of reach: the numbers of a double come to an end at a length of
three hundred and eight. -/

namespace SchemaSeed

namespace Column

/-- Category, length and members fit together. -/
structure Consistent (column : Column) : Prop where
  members_eq_nil_iff : column.members = [] ↔ column.category ≠ some .enumeration
  length_eq_none_iff : column.length = none ↔ column.category.any (·.isTemporal) = true
  character_length : column.category = some .character →
    ∃ length, column.length = some length ∧ 0 < length
  enumeration_length : column.category = some .enumeration → column.length = some 0

theorem consistent_unsupported (name : Text) (unsigned : Bool) :
    (unsupported name unsigned).Consistent where
  members_eq_nil_iff := by simp [unsupported]
  length_eq_none_iff := by simp [unsupported]
  character_length := by rintro ⟨⟩
  enumeration_length := by rintro ⟨⟩

theorem consistent_of_ofCategory {name declaration : Text} {unsigned : Bool} {typeEnd : Nat}
    {category : Category} {column : Column}
    (read : ofCategory name unsigned declaration typeEnd category = .ok column) :
    column.Consistent := by
  simp only [ofCategory] at read
  split at read
  case isTrue temporal =>
    cases read
    constructor <;> cases category <;> simp_all [Category.isTemporal]
  case isFalse timed =>
    rw [Bool.not_eq_true] at timed
    split at read
    case h_1 => cases read
    case h_2 length _ =>
      split at read
      case h_1 =>
        split at read
        case h_1 => cases read
        case h_2 =>
          cases read
          exact consistent_unsupported name unsigned
        case h_3 members nonempty _ =>
          cases read
          constructor <;> simp_all
      case h_2 =>
        cases read
        have positive : 0 < if length = 0 then defaultLength else length := by
          split
          case isTrue => decide
          case isFalse nonzero => exact Nat.pos_of_ne_zero nonzero
        exact ⟨by simp, by simp [Category.isTemporal], fun _ => ⟨_, rfl, positive⟩, by simp⟩
      case h_3 otherThanEnumeration otherThanCharacter =>
        cases read
        constructor <;> simp_all

theorem consistent_of_classify {definition : Text} {column : Column}
    (classified : classify definition = .ok column) : column.Consistent := by
  simp only [classify] at classified
  split at classified
  · cases classified
    exact consistent_unsupported _ _
  · exact consistent_of_ofCategory classified

end Column

namespace Generator

open Literal

variable {State : Type u} {generator : Generator State}

theorem tenPow_le {first second : Nat} (ordered : first ≤ second) :
    Nat.pow 10 first ≤ Nat.pow 10 second :=
  Nat.pow_le_pow_right (by decide) ordered

/-- A threshold between two powers of ten is met from the second one on. -/
theorem le_tenPow_sub_one_iff {threshold edge : Nat} (within : Nat.pow 10 edge - 1 < threshold)
    (beyond : threshold ≤ Nat.pow 10 (edge + 1) - 1) (length : Nat) :
    threshold ≤ Nat.pow 10 length - 1 ↔ edge < length := by
  constructor
  · intro reached
    refine Nat.lt_of_not_le fun short => ?_
    exact Nat.not_le.mpr within (Nat.le_trans reached (Nat.sub_le_sub_right (tenPow_le short) 1))
  · intro long
    exact Nat.le_trans beyond (Nat.sub_le_sub_right (tenPow_le long) 1)

/-- The scale of a double, one less than a power of ten, is within reach up to a length of
three hundred and eight. -/
theorem overflowThreshold_le_iff (length : Nat) :
    Binary64.overflowThreshold ≤ Nat.pow 10 length - 1 ↔ 308 < length :=
  le_tenPow_sub_one_iff (by decide +kernel) (by decide +kernel) length

theorem exists_double_iff (length : Nat) (state : State) :
    (∃ literal after, generator.double length state = (.ok literal, after)) ↔ length ≤ 308 := by
  simp only [double, overflowThreshold_le_iff]
  split
  case isTrue long => simp; omega
  case isFalse short => simp; omega

theorem exists_float64_iff (column : Column) (state : State) :
    (∃ literal after, generator.literal column .float64 state = (.ok literal, after)) ↔
      column.length.getD 0 ≤ 308 := by
  simp only [Generator.literal]
  exact exists_double_iff _ state

/-- A decimal number is written unless its whole part has more digits than are converted. -/
theorem exists_decimal (bounded : generator.source.Bounded) {length : Nat}
    (short : length ≤ Decimal.digitLimit) (state : State) :
    ∃ literal after, generator.decimal length state = (.ok literal, after) := by
  have narrow : decimalWidth length ≤ Decimal.digitLimit :=
    Nat.max_le.mpr ⟨Nat.le_trans (Nat.sub_le _ _) short, by decide⟩
  have positive : 0 < Nat.pow 10 (decimalWidth length) := Nat.pow_pos (by decide)
  have drawn := @bounded 0 (Nat.pow 10 (decimalWidth length) - 1) state (by omega)
  have small : (generator.source.between 0 (Nat.pow 10 (decimalWidth length) - 1) state).1.natAbs <
      Nat.pow 10 (decimalWidth length) := by omega
  have writable : Decimal.isTooLong
      (generator.source.between 0 (Nat.pow 10 (decimalWidth length) - 1) state).1 = false :=
    decide_eq_false (Nat.not_le.mpr (Nat.lt_of_lt_of_le small (tenPow_le narrow)))
  have room : decimalWidth length ≤ roomLimit := Nat.le_trans narrow (by decide)
  simp only [decimal]
  split
  · split
    · rename_i tooLong
      exact absurd (tooLong.symm.trans writable) (by decide)
    · exact ⟨_, _, rfl⟩
  · rw [copies_of_le room]
    exact ⟨_, _, rfl⟩

theorem exists_character {length : Nat} (room : length ≤ roomLimit) (state : State) :
    ∃ literal after, generator.character length state = (.ok literal, after) := by
  simp only [character, Nat.not_lt.mpr room, copies_of_le room, if_false]
  split
  · exact ⟨_, _, rfl⟩
  · exact ⟨_, _, rfl⟩

/-- There is a literal of every category, if category, length and members fit together. -/
theorem exists_literal (bounded : generator.source.Bounded) {column : Column}
    (consistent : column.Consistent)
    (short : ∀ length, column.length = some length → length ≤ 308) {category : Category}
    (known : column.category = some category) (state : State) :
    ∃ literal after, generator.literal column category state = (.ok literal, after) := by
  have length : column.length.getD 0 ≤ 308 := by
    cases declared : column.length with
    | none => exact Nat.zero_le _
    | some length => exact short length declared
  cases category
  case character =>
    simp only [Generator.literal]
    refine exists_character ?_ state
    have room : 308 ≤ roomLimit := by decide
    have default : Column.defaultLength ≤ 308 := by decide
    split <;> omega
  case decimal =>
    have room : 308 ≤ Decimal.digitLimit := by decide
    exact exists_decimal bounded (Nat.le_trans length room) state
  case float64 => exact (exists_float64_iff column state).mpr length
  case enumeration =>
    have nonempty := mt consistent.members_eq_nil_iff.mp (not_not_intro known)
    rcases List.exists_cons_of_ne_nil nonempty with ⟨first, rest, members⟩
    rw [Generator.literal, enumeration, members]
    exact ⟨_, _, rfl⟩
  all_goals exact ⟨_, _, rfl⟩

theorem exists_generated_iff {column : Column} {category : Category}
    (known : column.category = some category) (state : State) :
    (∃ literal after, generator.generate column state = (.ok (some literal), after)) ↔
      ∃ literal after, generator.literal column category state = (.ok literal, after) := by
  constructor
  · rintro ⟨literal, after, generated⟩
    rcases generator.generate_eq_ok known generated with ⟨text, -, written⟩
    exact ⟨text, after, written⟩
  · rintro ⟨literal, after, written⟩
    exact ⟨literal, after, generate_of_literal known written⟩

theorem generates_nothing_iff (column : Column) (state : State) :
    (∃ after, generator.generate column state = (.ok none, after)) ↔
      column.isSupported = false := by
  rw [Column.isSupported]
  cases known : column.category with
  | none => exact iff_of_true ⟨state, by rw [generate, known]⟩ rfl
  | some category =>
      refine iff_of_false ?_ (by simp)
      rintro ⟨after, generated⟩
      rcases generator.generate_eq_ok known generated with ⟨text, ⟨⟩, -⟩

/-- Category, length and members of a column that was read from a declaration fit together.  If
it is supported and its length is none or at most three hundred and eight, it is given a literal
whatever the random source answers; if it is not supported, and only then, it is given none.
For a double no greater length will do. -/
theorem classified_column_is_filled (bounded : generator.source.Bounded) {definition : Text}
    {column : Column} (classified : Column.classify definition = .ok column) (state : State) :
    column.Consistent ∧
      (column.isSupported = true → (∀ length, column.length = some length → length ≤ 308) →
        ∃ literal after, generator.generate column state = (.ok (some literal), after)) ∧
      ((∃ after, generator.generate column state = (.ok none, after)) ↔
        column.isSupported = false) ∧
      (∀ length, column.category = some .float64 → column.length = some length →
        ((∃ literal after, generator.generate column state = (.ok (some literal), after)) ↔
          length ≤ 308)) := by
  have consistent := Column.consistent_of_classify classified
  refine ⟨consistent, fun supported short => ?_, generates_nothing_iff column state, ?_⟩
  · rcases Option.isSome_iff_exists.mp supported with ⟨category, known⟩
    exact (exists_generated_iff known state).mpr
      (exists_literal bounded consistent short known state)
  · intro length known declared
    rw [exists_generated_iff known, exists_float64_iff, declared, Option.getD_some]

/-- The longest double that is filled. -/
theorem longest_double_is_filled :
    let definition : Text := "`d` DOUBLE(308) UNSIGNED"
    let column : Column := ⟨"d", some .float64, some 308, true, []⟩
    let generator : Generator Script :=
      ⟨Policy.default, ⟨2024, 2, 29, 13, 45, 7⟩, Script.source⟩
    generator.source.Bounded ∧ Column.classify definition = .ok column ∧
      column.isSupported = true ∧ (∀ length, column.length = some length → length ≤ 308) ∧
      ∃ literal after, generator.generate column ⟨#[7], 0⟩ = (.ok (some literal), after) := by
  intro definition column generator
  have bounded : generator.source.Bounded := Script.bounded
  have classified : Column.classify definition = .ok column := rfl
  have short : ∀ length, column.length = some length → length ≤ 308 := by
    rintro _ ⟨⟩
    exact Nat.le_refl _
  exact ⟨bounded, classified, rfl, short,
    (classified_column_is_filled bounded classified ⟨#[7], 0⟩).2.1 rfl short⟩

end Generator

end SchemaSeed
