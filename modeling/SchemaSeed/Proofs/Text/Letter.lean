import SchemaSeed.Text.Blank
import SchemaSeed.Text.Letter

/-! The characters that spell a letter.  For most letters these are the two ASCII forms
alone. -/

namespace SchemaSeed

namespace Character

theorem toNat_toLower (character : Char) :
    character.toLower.toNat =
      if 65 ≤ character.toNat ∧ character.toNat ≤ 90 then character.toNat + 32
      else character.toNat := by
  have bounds : ('A'.val ≤ character.val ∧ character.val ≤ 'Z'.val) ↔
      65 ≤ character.toNat ∧ character.toNat ≤ 90 := by
    simp only [UInt32.le_iff_toNat_le]
    rfl
  by_cases upper : 65 ≤ character.toNat ∧ character.toNat ≤ 90
  · have shift : ('a'.val - 'A'.val : UInt32) = 32 := by decide
    have small : character.val.toNat ≤ 90 := upper.2
    have lowered : character.toLower.val = character.val + ('a'.val - 'A'.val) := by
      exact congrArg Char.val (dif_pos (bounds.mpr upper))
    rw [if_pos upper]
    change character.toLower.val.toNat = character.val.toNat + 32
    rw [lowered, shift, UInt32.toNat_add]
    simp
    omega
  · have kept : character.toLower = character := dif_neg (mt bounds.mp upper)
    rw [kept, if_neg upper]

/-- A lower-case ASCII letter that is spelled by its two ASCII forms alone. -/
def IsPlainLetter (letter : Char) : Prop :=
  97 ≤ letter.toNat ∧ letter.toNat ≤ 122 ∧ letter ≠ 'i' ∧ letter ≠ 's' ∧ letter ≠ 'k'

instance (letter : Char) : Decidable (IsPlainLetter letter) := by
  unfold IsPlainLetter
  infer_instance

theorem toLower_of_spells {letter character : Char} (plain : IsPlainLetter letter)
    (spelled : spells letter character = true) : character.toLower = letter := by
  rcases plain with ⟨-, -, noI, noS, noK⟩
  simpa [spells, noI, noS, noK] using spelled

theorem toNat_of_spells {letter character : Char} (plain : IsPlainLetter letter)
    (spelled : spells letter character = true) :
    character.toNat = letter.toNat ∨ character.toNat + 32 = letter.toNat := by
  have code := toNat_toLower character
  rw [toLower_of_spells plain spelled] at code
  split at code <;> omega

/-- A character spells at most one plain letter. -/
theorem spells_eq_false {letter other character : Char} (plain : IsPlainLetter letter)
    (spelled : spells letter character = true) (otherPlain : IsPlainLetter other)
    (different : letter ≠ other) : spells other character = false := by
  rcases otherPlain with ⟨-, -, noI, noS, noK⟩
  simp [spells, toLower_of_spells plain spelled, different, noI, noS, noK]

theorem isBlank_eq_false_of_spells {letter character : Char} (plain : IsPlainLetter letter)
    (spelled : spells letter character = true) : isBlank character = false := by
  have code := toNat_of_spells plain spelled
  rcases plain with ⟨low, high, -⟩
  simp only [isBlank, Bool.or_eq_false_iff, Bool.and_eq_false_iff, decide_eq_false_iff_not,
    beq_eq_false_iff_ne]
  omega

theorem spells_eq_false_of_blank {letter character : Char} (plain : IsPlainLetter letter)
    (blank : isBlank character = true) : spells letter character = false := by
  cases spelled : spells letter character with
  | false => rfl
  | true =>
      have solid := isBlank_eq_false_of_spells plain spelled
      simp [blank] at solid

end Character

end SchemaSeed
