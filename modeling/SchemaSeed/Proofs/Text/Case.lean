import SchemaSeed.Proofs.Text.Letter
import SchemaSeed.Sql.Scan
import SchemaSeed.Text.Digit
import SchemaSeed.Text.Word

/-! Letter case.  A text is read without regard to the case of its letters where every
function on the way gives for the text in lower case what it gives for the text, in lower
case where that is text again. -/

namespace SchemaSeed

namespace Character

def capitals : Text :=
  "ABCDEFGHIJKLMNOPQRSTUVWXYZ"

theorem mem_capitals {character : Char}
    (code : 65 ≤ character.toNat ∧ character.toNat ≤ 90) : character ∈ capitals := by
  have known : ∀ code ∈ List.range' 65 26, Char.ofNat code ∈ capitals := by decide
  rw [← Char.ofNat_toNat character]
  apply known
  rw [List.mem_range'_1]
  omega

theorem toLower_eq_self {character : Char}
    (code : ¬ (65 ≤ character.toNat ∧ character.toNat ≤ 90)) :
    character.toLower = character := by
  have same := toNat_toLower character
  rw [if_neg code] at same
  rw [← Char.ofNat_toNat character.toLower, same, Char.ofNat_toNat]

/-- What is the same for a capital and its small letter does not depend on case. -/
theorem apply_toLower {function : Char → α}
    (same : ∀ letter ∈ capitals, function letter.toLower = function letter)
    (character : Char) : function character.toLower = function character := by
  by_cases code : 65 ≤ character.toNat ∧ character.toNat ≤ 90
  · exact same character (mem_capitals code)
  · rw [toLower_eq_self code]

@[simp] theorem toLower_toLower (character : Char) :
    character.toLower.toLower = character.toLower :=
  @apply_toLower _ Char.toLower (by decide) character

@[simp] theorem isBlank_toLower (character : Char) :
    isBlank character.toLower = isBlank character :=
  apply_toLower (by decide) character

@[simp] theorem isWord_toLower (character : Char) :
    isWord character.toLower = isWord character :=
  apply_toLower (by decide) character

@[simp] theorem isDecimalDigit_toLower (character : Char) :
    isDecimalDigit character.toLower = isDecimalDigit character :=
  apply_toLower (by decide) character

@[simp] theorem upper_toLower (character : Char) : upper character.toLower = upper character :=
  apply_toLower (by decide) character

@[simp] theorem spells_toLower (letter character : Char) :
    spells letter character.toLower = spells letter character := by
  have code (number : Nat)
      (apart : ∀ capital ∈ capitals,
        (capital.toLower.toNat == number) = (capital.toNat == number)) :
      (character.toLower.toNat == number) = (character.toNat == number) :=
    @apply_toLower _ (fun character => character.toNat == number) apart character
  rw [spells, spells, toLower_toLower, code 0x130 (by decide), code 0x131 (by decide),
    code 0x17F (by decide), code 0x212A (by decide)]

/-- A character that is no letter is the lower case of itself alone. -/
theorem toLower_eq_iff {character other : Char}
    (apart : ∀ capital ∈ capitals, capital.toLower ≠ other ∧ capital ≠ other) :
    character.toLower = other ↔ character = other := by
  have same := @apply_toLower _ (fun character => decide (character = other))
    (fun capital member => by simp [apart capital member]) character
  simpa using same

end Character

namespace Text

/-- The text in lower case, ASCII letters only. -/
def uncased (text : Text) : Text :=
  text.map Char.toLower

@[simp] theorem uncased_nil : uncased [] = [] := rfl

@[simp] theorem uncased_cons (character : Char) (text : Text) :
    uncased (character :: text) = character.toLower :: uncased text := rfl

@[simp] theorem uncased_append (left right : Text) :
    uncased (left ++ right) = uncased left ++ uncased right :=
  List.map_append

@[simp] theorem length_uncased (text : Text) : (uncased text).length = text.length :=
  List.length_map _

@[simp] theorem isEmpty_uncased (text : Text) : (uncased text).isEmpty = text.isEmpty :=
  List.isEmpty_map

theorem uncased_drop (count : Nat) (text : Text) :
    uncased (text.drop count) = (uncased text).drop count :=
  List.map_drop

section While

variable {wanted : Char → Bool} (same : ∀ character, wanted character.toLower = wanted character)

include same

theorem takeWhile_uncased (text : Text) :
    (uncased text).takeWhile wanted = uncased (text.takeWhile wanted) := by
  rw [uncased, List.takeWhile_map, uncased]
  exact congrArg (fun known => (text.takeWhile known).map Char.toLower) (funext same)

theorem dropWhile_uncased (text : Text) :
    (uncased text).dropWhile wanted = uncased (text.dropWhile wanted) := by
  rw [uncased, List.dropWhile_map, uncased]
  exact congrArg (fun known => (text.dropWhile known).map Char.toLower) (funext same)

theorem trim_uncased (text : Text) : trim wanted (uncased text) = uncased (trim wanted text) := by
  have reversed (text : Text) : (uncased text).reverse = uncased text.reverse :=
    List.map_reverse.symm
  rw [trim, dropWhile_uncased same, reversed, dropWhile_uncased same, reversed, trim]

end While

@[simp] theorem skipBlanks_uncased (text : Text) :
    (uncased text).skipBlanks = uncased text.skipBlanks :=
  dropWhile_uncased Character.isBlank_toLower text

@[simp] theorem strip_uncased (text : Text) : (uncased text).strip = uncased text.strip :=
  trim_uncased Character.isBlank_toLower text

theorem join_map_uncased (parts : List Text) :
    join " " (parts.map uncased) = uncased (join " " parts) := by
  induction parts with
  | nil => rfl
  | cons first rest induction =>
      cases rest with
      | nil => simp
      | cons second rest =>
          simp only [List.map_cons] at induction ⊢
          simp only [join_cons_cons, induction, uncased_append]
          rfl

theorem wordsOnto_uncased (words : List Text) (current text : Text) :
    wordsOnto (words.map uncased) (uncased current) (uncased text) =
      (wordsOnto words current text).map uncased := by
  induction text generalizing words current with
  | nil =>
      simp only [uncased_nil, wordsOnto, isEmpty_uncased]
      split
      · exact List.map_reverse.symm
      · simp [uncased]
  | cons character text induction =>
      simp only [uncased_cons, wordsOnto, isEmpty_uncased, Character.isBlank_toLower]
      split
      · split
        · exact induction words []
        · rw [← induction _ []]
          simp [uncased]
      · exact induction words (character :: current)

@[simp] theorem collapse_uncased (text : Text) :
    (uncased text).collapse = uncased text.collapse := by
  have same := wordsOnto_uncased [] [] text
  rw [collapse, words, show wordsOnto [] [] (uncased text) = _ from same, join_map_uncased]
  rfl

@[simp] theorem upper_uncased (text : Text) : (uncased text).upper = text.upper := by
  induction text with
  | nil => rfl
  | cons character text induction =>
      rw [upper, upper] at induction
      rw [uncased_cons, upper, upper, List.flatMap_cons, List.flatMap_cons, induction,
        Character.upper_toLower]

end Text

end SchemaSeed
