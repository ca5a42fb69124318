import SchemaSeed.Proofs.Column.Classify
import SchemaSeed.Proofs.Sql.Literals
import SchemaSeed.Proofs.Table.Layout

/-! The columns of a declaration, read back: each field is classified as the column that
it stands for, whatever its members hold. -/

namespace SchemaSeed

namespace Declaration

/-! ## Types -/

theorem Keyword.letters (keyword : Keyword) :
    ∀ character ∈ keyword.text, Column.isTypeCharacter character = true ∧
      Character.isBlank character = false := by
  have letters : ∀ entry ∈ Column.typeKeywords, ∀ character ∈ entry.1,
      Column.isTypeCharacter character = true ∧ Character.isBlank character = false := by
    decide
  exact letters _ keyword.known

/-- Although keywords may contain one another, each is found in its own text before any
of another category. -/
theorem Keyword.matchKeyword (keyword : Keyword) :
    (Column.matchKeyword keyword.text).map (·.2) = some keyword.category := by
  have found : ∀ entry ∈ Column.typeKeywords,
      (Column.matchKeyword entry.1).map (·.2) = some entry.2 := by decide
  exact found _ keyword.known

theorem Keyword.category_ne_enumeration (keyword : Keyword) :
    keyword.category ≠ .enumeration := by
  have other : ∀ entry ∈ Column.typeKeywords, entry.1 ≠ "ENUM" → entry.2 ≠ .enumeration := by
    decide
  exact other _ keyword.known keyword.other

theorem Numeral.digits_ne_nil (numeral : Numeral) : numeral.digits ≠ [] :=
  List.append_ne_nil_of_right_ne_nil _ (Decimal.natural_ne_nil numeral.value)

theorem Numeral.value_digits (numeral : Numeral) :
    Decimal.value numeral.digits = numeral.value := by
  rw [digits, Decimal.value_zeros_append, Decimal.value_natural]

/-- What follows the name of a type. -/
theorem Kind.declaredLength (length : Option Numeral) (unsigned : Bool) :
    Column.declaredLength (lengthText length ++ tail unsigned) =
      .ok ((length.map (·.value)).getD 0) := by
  cases length with
  | none =>
      have nothing : Column.lengthDigits (tail unsigned) = [] := by
        cases unsigned <;> decide
      rw [lengthText, List.nil_append, Column.declaredLength, nothing]
      rfl
  | some numeral =>
      have known : ∀ digit ∈ Decimal.figures, Character.isDecimalDigit digit = true ∧
          Character.isBlank digit = false := by decide
      have digits := Column.lengthDigits_append numeral.digits_ne_nil
        (fun digit member => known digit (numeral.mem_figures digit member)) (tail unsigned)
      have shape : lengthText (some numeral) ++ tail unsigned =
          '(' :: numeral.digits ++ ')' :: tail unsigned := by
        simp [lengthText]
      have within : ¬ Decimal.digitLimit < numeral.digits.length := by
        have bound := numeral.within
        rw [Numeral.digits, List.length_append, List.length_replicate]
        omega
      rw [shape, Column.declaredLength, digits]
      simp only [within, if_false, numeral.value_digits]
      rfl

theorem Kind.typeName (keyword : Keyword) (length : Option Numeral) (unsigned : Bool) :
    Column.typeName? (typed keyword length unsigned).text =
      some (keyword.text, keyword.text.length) := by
  rw [text, List.append_assoc]
  apply Column.typeName?_append keyword.solid.1 keyword.letters
  cases length with
  | none => cases unsigned <;> decide
  | some numeral =>
      intro character first
      have opening : '(' = character := by simpa [lengthText] using first
      subst opening
      decide

theorem Kind.mentionsUnsigned (kind : Kind) :
    Sql.mentionsUnsigned kind.text = kind.unsigned := by
  cases unsigned : kind.unsigned with
  | false =>
      have quiet : Quiet (Sql.word? "unsigned") kind.unsigned := unsigned ▸ quiet_unsigned
      have absent := kind.occurs_text quiet fun member _ => member.noUnsigned
      exact @Sql.occurs_right _ [' '] _ absent
  | true =>
      cases kind with
      | enumeration first others => cases unsigned
      | typed keyword length unsignedFlag =>
          have flagged : unsignedFlag = true := unsigned
          subst flagged
          cases found : Sql.mentionsUnsigned (typed keyword length true).text with
          | true => rfl
          | false =>
              have absent := Sql.occurs_right found
              have present : Sql.occurs (Sql.word? "unsigned") (tail true) = true := by
                decide
              rw [present] at absent
              cases absent

theorem Member.member_literal (member : Member) :
    Column.member member.literal = member.text :=
  Column.member_literal fun character found => by
    rcases member.unquoted character found with ⟨noSingle, noDouble, -⟩
    simp [Column.isStringQuote, noSingle, noDouble]

theorem Kind.membersFrom (first : Member) (others : List Member) :
    Column.membersFrom (enumeration first others).text 4 =
      .ok ((first :: others).map (·.text)) := by
  have shape : (enumeration first others).text = "ENUM".toList ++
      ('(' :: Text.join "," (('\'' :: (first.text ++ ['\''])) :: others.map (·.literal)) ++
        ')' :: tail false) := by
    unfold text membersText Member.literal
    simp
  have read := Column.membersFrom_group "ENUM" (tail false) (by decide)
    (nested_literals first others)
  have four : ("ENUM" : Text).length = 4 := rfl
  have texts : (Member.literal first :: others.map (·.literal)).map Column.member =
      (first :: others).map (·.text) := by
    simp [Member.member_literal]
  rw [four] at read
  rw [shape]
  exact read.trans (congrArg Except.ok texts)

/-- The kind of a field decides what its column is. -/
theorem Kind.ofCategory (keyword : Keyword) (length : Option Numeral) (unsigned : Bool)
    (name : Text) :
    Column.ofCategory name unsigned (typed keyword length unsigned).text keyword.text.length
        keyword.category =
      .ok ((typed keyword length unsigned).column name) := by
  have rest : (typed keyword length unsigned).text.drop keyword.text.length =
      lengthText length ++ tail unsigned := by
    rw [text, List.append_assoc, List.drop_left]
  have other := keyword.category_ne_enumeration
  have declared := declaredLength length unsigned
  rw [Column.ofCategory, rest, declared]
  cases category : keyword.category with
  | enumeration => exact absurd category other
  | _ => simp [column, category, Category.isTemporal, columnLength, Column.defaultLength]

theorem Kind.ofCategory_enumeration (first : Member) (others : List Member) (name : Text) :
    Column.ofCategory name false (enumeration first others).text 4 .enumeration =
      .ok ((enumeration first others).column name) := by
  have undeclared : Column.declaredLength ((enumeration first others).text.drop 4) = .ok 0 := by
    have shape : (enumeration first others).text.drop 4 =
        '(' :: (membersText first others ++ ')' :: tail false) := rfl
    have opened : ∃ more, membersText first others = '\'' :: more := by
      cases others with
      | nil => exact ⟨_, Text.join_singleton _ _⟩
      | cons second others => exact ⟨_, Text.join_cons_cons _ _ _ _⟩
    rcases opened with ⟨more, opened⟩
    have nothing : Column.lengthDigits ('(' :: (membersText first others ++ ')' :: tail false)) =
        [] := by
      rw [Column.lengthDigits, Text.skipBlanks_of_solid (by decide), opened]
      simp only
      rw [List.cons_append, Text.skipBlanks_of_solid (by decide), List.takeWhile_cons]
      rfl
    rw [shape, Column.declaredLength, nothing]
    rfl
  rw [Column.ofCategory, undeclared]
  simp only [Category.isTemporal, Bool.false_eq_true, if_false, membersFrom]
  rfl

/-! ## Fields -/

theorem Kind.head_solid (kind : Kind) :
    ∃ character rest, kind.text = character :: rest ∧ Character.isBlank character = false := by
  cases kind with
  | enumeration first others => exact ⟨'E', _, rfl, by decide⟩
  | typed keyword length unsigned =>
      rcases keyword.solid with ⟨nonempty, solid⟩
      rcases List.exists_cons_of_ne_nil nonempty with ⟨character, more, shape⟩
      refine ⟨character, more ++ lengthText length ++ tail unsigned, ?_,
        solid character (shape ▸ List.mem_cons_self)⟩
      rw [text, shape]
      rfl

theorem Field.splitName (field : Field) :
    Column.splitName field.text = (some field.name.text, field.kind.text) := by
  rcases field.kind.head_solid with ⟨character, rest, shape, solid⟩
  have whole : field.text =
      Sql.backtick :: field.name.text ++ Sql.backtick :: (' ' :: field.kind.text) := by
    simp [text, Name.quoted]
  have space : Text.skipBlanks (' ' :: character :: rest) =
      Text.skipBlanks (character :: rest) := rfl
  rw [whole, Column.splitName_append field.name.nonempty field.name.known, shape, space,
    Text.skipBlanks_of_solid solid]

/-- A field is classified as the column that it stands for. -/
theorem Field.classify (field : Field) : Column.classify field.text = .ok field.column := by
  have split := field.splitName
  have unsigned := field.kind.mentionsUnsigned
  rcases field with ⟨name, kind⟩
  cases kind with
  | typed keyword length unsignedFlag =>
      rw [Column.classify_of_parts split (Kind.typeName keyword length unsignedFlag)
        keyword.matchKeyword, unsigned]
      exact Kind.ofCategory keyword length unsignedFlag name.text
  | enumeration first others =>
      have typeName : Column.typeName? (Kind.enumeration first others).text =
          some (("ENUM" : Text), 4) := by
        apply @Column.typeName?_append "ENUM" _ (by decide) (by decide)
        rintro character ⟨⟩
        decide
      have matched : (Column.matchKeyword "ENUM").map (·.2) = some .enumeration := by
        decide
      rw [Column.classify_of_parts split typeName matched, unsigned]
      exact Kind.ofCategory_enumeration first others name.text

end Declaration

end SchemaSeed
