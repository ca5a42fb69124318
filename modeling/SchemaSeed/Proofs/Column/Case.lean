import SchemaSeed.Proofs.Sql.Case
import SchemaSeed.Proofs.Table.Agreement

/-! Letter case in columns.  The category, the length, the sign and the number of members of
a column do not depend on case: two declarations that differ in nothing else give columns with
the same outline or fail alike. -/

namespace SchemaSeed

open Sql Text

namespace Column

/-! ## Columns in lower case -/

theorem splitName_uncased (declaration : Text) :
    splitName (uncased declaration) =
      Prod.map (Option.map uncased) uncased (splitName declaration) := by
  simp only [splitName, skipBlanks_uncased, quotedName?_uncased, strip_uncased]
  cases quotedName? declaration.skipBlanks with
  | none => rfl
  | some found => simp [Prod.map]

theorem isTypeCharacter_toLower (character : Char) :
    isTypeCharacter character.toLower = isTypeCharacter character :=
  Character.apply_toLower (by decide) character

theorem typeName?_uncased (text : Text) :
    typeName? (uncased text) = (typeName? text).map (Prod.map uncased id) := by
  simp only [typeName?, skipBlanks_uncased, takeWhile_uncased isTypeCharacter_toLower,
    isEmpty_uncased, length_uncased]
  split <;> rfl

theorem matchKeyword_uncased (typeName : Text) :
    matchKeyword (uncased typeName) = matchKeyword typeName := by
  rw [matchKeyword, upper_uncased, matchKeyword]

theorem toLower_of_isDecimalDigit {character : Char}
    (digit : Character.isDecimalDigit character = true) : character.toLower = character := by
  have noCapital : ∀ capital ∈ Character.capitals, Character.isDecimalDigit capital = false := by
    decide
  apply Character.toLower_eq_self
  intro code
  rw [noCapital character (Character.mem_capitals code)] at digit
  cases digit

/-- Digits have no case. -/
theorem lengthDigits_uncased (text : Text) : lengthDigits (uncased text) = lengthDigits text := by
  have digits (text : Text) : (uncased text).takeWhile Character.isDecimalDigit =
      text.takeWhile Character.isDecimalDigit := by
    rw [takeWhile_uncased Character.isDecimalDigit_toLower, uncased]
    refine (List.map_congr_left fun character member => ?_).trans (List.map_id _)
    exact toLower_of_isDecimalDigit (List.mem_takeWhile_imp member)
  have opening := @toLower_eq_mark '(' (by decide)
  rw [lengthDigits, skipBlanks_uncased, lengthDigits]
  cases text.skipBlanks with
  | nil => rfl
  | cons character rest =>
      by_cases opens : character = '('
      · rw [opens]
        exact (congrArg _ (skipBlanks_uncased rest)).trans (digits (skipBlanks rest))
      · have opensLower := mt (opening character).mp opens
        rw [uncased_cons]
        split
        · rename_i same
          exact absurd (List.cons_eq_cons.mp same).1 opensLower
        · split
          · rename_i same
            exact absurd (List.cons_eq_cons.mp same).1 opens
          · rfl

theorem isStringQuote_toLower (character : Char) :
    isStringQuote character.toLower = isStringQuote character :=
  Character.apply_toLower (by decide) character

theorem member_uncased (written : Text) : member (uncased written) = uncased (member written) := by
  rw [member, strip_uncased, trim_uncased isStringQuote_toLower, member]

theorem members?_uncased (text : Text) :
    members? (uncased text) = (members? text).map (List.map uncased) := by
  rw [members?, members?, content?_uncased]
  cases content? text with
  | none => rfl
  | some content =>
      cases content with
      | none => rfl
      | some inside =>
          have parts := @partsFrom_uncased Scan.start (reads_plain false 0) inside
          simp only [Option.map_some, strip_uncased, isEmpty_uncased, parts]
          split
          · rfl
          · simp [member_uncased, Function.comp_def]

/-! ## Outlines -/

/-- The column without the text of its members; how many there are is left. -/
def outline (column : Column) : Column :=
  { column with members := column.members.map fun _ => [] }

section Behind

variable {declaration other : Text} {typeEnd otherEnd : Nat}
  (same : uncased (declaration.drop typeEnd) = uncased (other.drop otherEnd))

include same

theorem declaredLength_uncased :
    declaredLength (declaration.drop typeEnd) = declaredLength (other.drop otherEnd) := by
  rw [declaredLength, declaredLength, ← lengthDigits_uncased, same, lengthDigits_uncased]

theorem membersFrom_uncased :
    (∃ quote otherQuote,
      membersFrom declaration typeEnd = .error (.unterminatedQuote quote declaration) ∧
      membersFrom other otherEnd = .error (.unterminatedQuote otherQuote other)) ∨
    ∃ read readOther, membersFrom declaration typeEnd = .ok read ∧
      membersFrom other otherEnd = .ok readOther ∧
      readOther.map uncased = read.map uncased := by
  have alike : (members? (declaration.drop typeEnd)).map (List.map uncased) =
      (members? (other.drop otherEnd)).map (List.map uncased) := by
    rw [← members?_uncased, same, members?_uncased]
  cases found : members? (declaration.drop typeEnd) with
  | none =>
      rw [found, Option.map_none, eq_comm, Option.map_eq_none_iff] at alike
      rcases membersFrom_of_members?_eq_none found with ⟨quote, failed⟩
      rcases membersFrom_of_members?_eq_none alike with ⟨otherQuote, failedOther⟩
      exact .inl ⟨quote, otherQuote, failed, failedOther⟩
  | some read =>
      rw [found, Option.map_some, eq_comm, Option.map_eq_some_iff] at alike
      rcases alike with ⟨readOther, foundOther, members⟩
      exact .inr ⟨read, readOther, membersFrom_of_members?_eq_some found,
        membersFrom_of_members?_eq_some foundOther, members⟩

theorem ofCategory_outline (name : Text) (unsigned : Bool) (category : Category) :
    Agree ((ofCategory name unsigned declaration typeEnd category).map outline)
      ((ofCategory name unsigned other otherEnd category).map outline) := by
  simp only [ofCategory, declaredLength_uncased same]
  split
  · exact .refl _
  · split
    · exact .refl _
    · cases category with
      | enumeration =>
          rcases membersFrom_uncased same with
            ⟨quote, otherQuote, failed, failedOther⟩ | ⟨read, readOther, found, foundOther, alike⟩
          · rw [failed, failedOther]
            exact .error rfl
          · have count : readOther.length = read.length := by
              rw [← List.length_map uncased, alike, List.length_map]
            have outlines : readOther.map (fun _ => ([] : Text)) =
                read.map fun _ => ([] : Text) := by
              rw [List.map_const', List.map_const', count]
            rw [found, foundOther]
            cases read with
            | nil =>
                rw [List.eq_nil_of_length_eq_zero count]
                exact .refl _
            | cons first more =>
                cases readOther with
                | nil => cases count
                | cons firstOther moreOther =>
                    apply Agree.of_eq
                    simp only [Except.map, outline, outlines]
      | _ => exact .refl _

end Behind

section Classify

variable {candidate other name rest restOther : Text}
  (split : splitName candidate = (some name, rest))
  (splitOther : splitName other = (some name, restOther))
  (same : uncased rest = uncased restOther)

include split splitOther same

theorem classify_outline :
    Agree ((classify candidate).map outline) ((classify other).map outline) := by
  have types : (typeName? rest).map (Prod.map uncased id) =
      (typeName? restOther).map (Prod.map uncased id) := by
    rw [← typeName?_uncased, same, typeName?_uncased]
  have unsigned : mentionsUnsigned rest = mentionsUnsigned restOther := by
    rw [← mentionsUnsigned_uncased, same, mentionsUnsigned_uncased]
  simp only [classify, split, splitOther, unsigned]
  cases typed : typeName? rest with
  | none =>
      rw [typed, Option.map_none, eq_comm, Option.map_eq_none_iff] at types
      rw [types]
      exact .refl _
  | some found =>
      rw [typed, Option.map_some, eq_comm, Option.map_eq_some_iff] at types
      rcases types with ⟨⟨typeNameOther, typeEnd⟩, typedOther, alike⟩
      rcases found with ⟨typeName, _⟩
      rcases Prod.mk.inj alike with ⟨names, rfl⟩
      have keyword : matchKeyword typeName = matchKeyword typeNameOther := by
        rw [← matchKeyword_uncased, ← names, matchKeyword_uncased]
      simp only [typedOther, Option.bind_some, keyword]
      cases matchKeyword typeNameOther with
      | none => exact .refl _
      | some matched =>
          apply ofCategory_outline
          rw [uncased_drop, same, uncased_drop]
          rfl

end Classify

end Column

end SchemaSeed
