import SchemaSeed.Proofs.Table.Statement
import SchemaSeed.Proofs.Table.Candidates

/-! A length that is not converted.  However many digits stand in the length of a column,
the document is one block and its candidates are told apart as ever; the length alone
decides whether the table can be read. -/

namespace SchemaSeed

namespace Table

/-! ## The document -/

def tableHead : Text :=
  "CREATE TABLE " ++ (Sql.backtick :: ['t'] ++ [Sql.backtick]) ++ [' ']

def keyColumn : Text :=
  (Sql.backtick :: ['i', 'd'] ++ [Sql.backtick]) ++ " INT PRIMARY KEY"

/-- A type with a length. -/
def sizedType (digits : Text) : Text :=
  "DOUBLE" ++ ('(' :: digits ++ [')'])

def sizedColumn (digits : Text) : Text :=
  (Sql.backtick :: ['n'] ++ [Sql.backtick]) ++ ' ' :: sizedType digits

def sizedTable (digits : Text) : Text :=
  tableHead ++ ('(' :: (keyColumn ++ ',' :: sizedColumn digits) ++ [')'])

section SizedTable

variable {digits : Text} (figures : ∀ digit ∈ digits, digit ∈ Decimal.figures)

include figures

theorem forall_group {property : Char → Prop}
    (known : ∀ character ∈ '(' :: ')' :: Decimal.figures, property character) :
    ∀ character ∈ '(' :: digits ++ [')'], property character := by
  simp only [List.forall_mem_cons] at known
  intro character member
  rcases List.mem_append.mp member with front | back
  · rcases List.mem_cons.mp front with rfl | inside
    · exact known.1
    · exact known.2.2 character (figures character inside)
  · rw [List.mem_singleton.mp back]
    exact known.2.1

/-- What holds of the characters around the digits and of all figures holds of all
characters of the type. -/
theorem forall_sizedType {property : Char → Prop}
    (known : ∀ character ∈ "DOUBLE".toList ++ '(' :: ')' :: Decimal.figures, property character) :
    ∀ character ∈ sizedType digits, property character := by
  rw [List.forall_mem_append] at known
  exact List.forall_mem_append.mpr ⟨known.1, forall_group figures known.2⟩

theorem forall_sizedColumn {property : Char → Prop}
    (known : ∀ character ∈ [Sql.backtick, 'n', ' '] ++
      ("DOUBLE".toList ++ '(' :: ')' :: Decimal.figures), property character) :
    ∀ character ∈ sizedColumn digits, property character := by
  rw [List.forall_mem_append] at known
  have type := forall_sizedType figures known.2
  simp only [List.forall_mem_cons] at known
  simp only [sizedColumn, List.forall_mem_append, List.forall_mem_cons]
  exact ⟨⟨⟨known.1.1, known.1.2.1, by simp⟩, known.1.1, by simp⟩, known.1.2.2.1, type⟩

/-! ## The candidates -/

omit figures in
theorem nested_keyColumn : Sql.Nested false keyColumn := by
  have options : Sql.Nested false " INT PRIMARY KEY" := .of_plain (by decide)
  exact .append (.quoted (by decide) (by decide)) options

theorem nested_sizedColumn : Sql.Nested false (sizedColumn digits) := by
  have known : ∀ digit ∈ Decimal.figures, Sql.isQuote digit = false ∧ digit ≠ '(' ∧
      digit ≠ ')' ∧ (digit = ',' → true = true) := by decide
  have numeral : Sql.Nested true digits :=
    .of_plain fun digit member => known digit (figures digit member)
  have keyword : Sql.Nested false " DOUBLE" := .of_plain (by decide)
  exact .append (.quoted (by decide) (by decide)) (keyword.append (.group numeral))

theorem collapse_sizedColumn : (sizedColumn digits).collapse = sizedColumn digits := by
  have front : Text.gaps true (Sql.backtick :: ['n'] ++ [Sql.backtick]) = some false := by decide
  have space : Text.gaps false [' '] = some true := by decide
  apply Text.collapse_of_gaps
  rw [sizedColumn, Text.gaps_append, front, Option.bind_some, ← List.singleton_append,
    Text.gaps_append, space, Option.bind_some]
  exact Text.gaps_of_solid (forall_sizedType figures (by decide)) nofun true

omit figures in
theorem sizedTable_eq_join :
    sizedTable digits =
      tableHead ++ ('(' :: Text.join "," [keyColumn, sizedColumn digits] ++ [')']) := by
  have comma : (",".toList : Text) = [','] := by decide
  rw [Text.join_cons_cons, Text.join_singleton, comma, sizedTable]
  simp only [List.append_assoc, List.cons_append, List.nil_append]

theorem candidates_sizedTable :
    Sql.candidates (sizedTable digits) =
      .ok [tableHead.collapse, keyColumn, sizedColumn digits] := by
  have collapsed := collapse_sizedColumn figures
  have front : Sql.tidied [tableHead, keyColumn] = [tableHead.collapse, keyColumn] := by decide
  have back : Sql.tidied [sizedColumn digits] = [sizedColumn digits] := by
    rw [Sql.tidied_cons (by rw [collapsed]; exact nofun), collapsed]
    rfl
  have tidy := Sql.tidied_append [tableHead, keyColumn] [sizedColumn digits]
  rw [front, back] at tidy
  have found := @Sql.candidates_of_items tableHead keyColumn [sizedColumn digits] []
    (fun _ => rfl) (by simpa using ⟨nested_keyColumn, nested_sizedColumn figures⟩)
  rw [sizedTable_eq_join, found]
  exact congrArg Except.ok tidy

omit figures in
theorem splitName_sizedColumn :
    Column.splitName (sizedColumn digits) = (some ['n'], sizedType digits) :=
  @Column.splitName_append ['n'] (by decide) (by decide) (' ' :: sizedType digits)

theorem keyMention_sizedColumn : Reading.keyMention (sizedColumn digits) = .silent := by
  have starts : Sql.StartsWith Sql.primaryKey? 'p' := ((Sql.startsWith_word 'p' _).bind _).bind _
  apply Declaration.keyMention_of_silent
  rw [Sql.mask_of_plain (forall_sizedColumn figures (by decide))]
  exact Sql.silent_nil_iff.mp (starts.silent (forall_sizedColumn figures (by decide)) [])

theorem isPlainColumn_sizedColumn : Reading.isPlainColumn "id" (sizedColumn digits) = true := by
  have noMarker : Sql.occurs Sql.tableMarker? (sizedColumn digits) = false :=
    Sql.silent_nil_iff.mp
      (Sql.startsWith_tableMarker.silent (forall_sizedColumn figures (by decide)) [])
  have noWord (letter : Char) (letters : Text)
      (foreign : ∀ character ∈ sizedType digits, Character.spells letter character = false) :
      Sql.occurs (Sql.word? (letter :: letters)) (sizedType digits) = false :=
    Sql.silent_nil_iff.mp ((Sql.startsWith_word letter letters).silent foreign [])
  have noKey : Sql.mentionsKey (sizedType digits) = false := by
    apply Sql.hasOwnWordAfter_eq_false
    intro letters member
    simp only [Sql.keyWords, List.mem_cons, List.not_mem_nil, or_false] at member
    rcases member with rfl | rfl | rfl <;>
      exact noWord _ _ (forall_sizedType figures (by decide))
  have noTimestamp : Sql.mentionsTimestamp (sizedType digits) = false :=
    noWord 't' _ (forall_sizedType figures (by decide))
  have masked : Sql.mask (sizedType digits) = sizedType digits :=
    Sql.mask_of_plain (forall_sizedType figures (by decide))
  simp only [Reading.isPlainColumn, noMarker, splitName_sizedColumn, masked, noKey, noTimestamp]
  decide

theorem classify_sizedColumn (long : Decimal.digitLimit < digits.length) :
    Column.classify (sizedColumn digits) = .error (.numeralTooLong digits.length) := by
  have nonempty : digits ≠ [] := by
    rintro rfl
    exact absurd long (by decide)
  have typeName : Column.typeName? (sizedType digits) = some ("DOUBLE".toList, 6) :=
    @Column.typeName?_append "DOUBLE" _ (by decide) (by decide) (by
      rintro character ⟨⟩
      decide)
  have known : ∀ digit ∈ Decimal.figures, Character.isDecimalDigit digit = true ∧
      Character.isBlank digit = false := by decide
  have length : Column.lengthDigits ('(' :: digits ++ [')']) = digits :=
    Column.lengthDigits_append nonempty (fun digit member => known digit (figures digit member)) []
  have category : (Column.matchKeyword "DOUBLE").map (·.2) = some .float64 := by decide
  rw [Column.classify_of_parts splitName_sizedColumn typeName category]
  have behind : (sizedType digits).drop 6 = '(' :: digits ++ [')'] := rfl
  simp only [Column.ofCategory, Category.isTemporal, behind, Column.declaredLength, length, long,
    if_true, Bool.false_eq_true, if_false]

/-- A table in which the length of a column has too many digits cannot be read. -/
theorem parse_sizedTable (long : Decimal.digitLimit < digits.length) :
    parse (sizedTable digits) = .error (.numeralTooLong digits.length) := by
  have name : Sql.firstName? tableHead.collapse = some ['t'] := by decide
  have key : Reading.keyMention keyColumn = .inline "id" := by decide
  have head : Reading.isPlainColumn "id" tableHead.collapse = false := by decide
  have keyless : Reading.isPlainColumn "id" keyColumn = false := by decide
  simp only [parse, Reading.ofBlock, candidates_sizedTable figures, Reading.ofCandidates, name,
    Reading.primaryKeyFrom, key, keyMention_sizedColumn figures, Option.none_or,
    Reading.columnsOf, head, keyless, isPlainColumn_sizedColumn figures,
    classify_sizedColumn figures long]
  rfl

/-! ## The block -/

theorem stripComments_sizedTable : Sql.stripComments (sizedTable digits) = sizedTable digits := by
  have name (name : Text) (inside : ∀ character ∈ name, character ≠ Sql.backtick) (rest : Text) :
      Sql.Kept (Sql.backtick :: name ++ [Sql.backtick]) rest := Sql.kept_name inside rest
  have plain (part rest : Text) (lasting : ∀ character ∈ part, Declaration.IsLasting character)
      (unannotated : Sql.occurs (Sql.word? "comment") part = false) :
      Sql.Kept part (Sql.backtick :: rest) :=
    Declaration.kept_part lasting unannotated (by rintro character ⟨⟩; decide)
  have size : Sql.Kept (' ' :: sizedType digits ++ [')']) [] := by
    refine Sql.kept_plain ?_ ?_ nofun
    · exact List.forall_mem_append.mpr
        ⟨List.forall_mem_cons.mpr ⟨by decide, forall_sizedType figures (by decide)⟩, by decide⟩
    · refine Sql.silent_nil_iff.mp
        ((Sql.startsWith_word 'c' _).silent (List.forall_mem_append.mpr ⟨?_, by decide⟩) [])
      exact List.forall_mem_cons.mpr ⟨by decide, forall_sizedType figures (by decide)⟩
  have shape : sizedTable digits = "CREATE TABLE ".toList ++
      ((Sql.backtick :: ['t'] ++ [Sql.backtick]) ++ ([' ', '('] ++
        ((Sql.backtick :: ['i', 'd'] ++ [Sql.backtick]) ++ ((" INT PRIMARY KEY".toList ++ [',']) ++
          ((Sql.backtick :: ['n'] ++ [Sql.backtick]) ++ (' ' :: sizedType digits ++ [')'])))))) := by
    unfold sizedTable tableHead keyColumn sizedColumn
    generalize "CREATE TABLE ".toList = marker
    generalize " INT PRIMARY KEY".toList = options
    generalize sizedType digits = type
    simp
  apply Sql.stripComments_of_kept
  rw [shape]
  refine .append (plain _ _ (by decide) (by decide)) (.append (name _ (by decide) _)
    (.append (plain _ _ (by decide) (by decide)) (.append (name _ (by decide) _)
      (.append (plain _ _ (by decide) (by decide)) (.append (name _ (by decide) _) size)))))

/-- The table is a document of its own. -/
theorem segment_sizedTable : Sql.segment (sizedTable digits) = [sizedTable digits] := by
  have behind {property : Char → Prop} (comma : property ',')
      (known : ∀ character ∈ [Sql.backtick, 'n', ' '] ++
        ("DOUBLE".toList ++ '(' :: ')' :: Decimal.figures), property character) :
      ∀ character ∈ ',' :: sizedColumn digits ++ [')'], property character := by
    have closing := known ')' (by decide)
    exact List.forall_mem_append.mpr ⟨List.forall_mem_cons.mpr
      ⟨comma, forall_sizedColumn figures known⟩, List.forall_mem_singleton.mpr closing⟩
  have shape : sizedTable digits =
      (tableHead ++ '(' :: keyColumn) ++ (',' :: sizedColumn digits ++ [')']) := by
    simp [sizedTable]
  have single : Sql.occurs Sql.tableMarker? (sizedTable digits).tail = false := by
    have tail : (sizedTable digits).tail =
        (tableHead ++ '(' :: keyColumn).tail ++ (',' :: sizedColumn digits ++ [')']) := by
      rw [shape]
      rfl
    rw [tail, ← Sql.silent_nil_iff]
    exact Sql.startsWith_tableMarker.silent
      (List.forall_mem_append.mpr ⟨by decide, behind (by decide) (by decide)⟩) []
  have noEngine : Sql.occurs Sql.engineClause? (sizedTable digits) = false := by
    rw [shape]
    exact Sql.occurs_eq_false_of_all Sql.engineClause?_eq_none_of_no_equals
      (List.forall_mem_append.mpr ⟨by decide, behind (by decide) (by decide)⟩)
  have whole : Sql.Block.raw ⟨0, sizedTable digits⟩ = sizedTable digits := by
    have none := Sql.position?_append_of_silent (Sql.silent_nil_iff.mpr noEngine) 0
    rw [List.append_nil] at none
    rw [Sql.Block.raw, Sql.Block.engine?, none, Sql.position?, Option.getD_none, List.take_length]
  rw [Sql.segment_of_single_marker rfl single, Sql.Block.declaration_eq, whole,
    stripComments_sizedTable figures]

end SizedTable

/-- A document can hold a block that cannot be read although nothing is wrong with it but
the number of digits of a length. -/
theorem length_of_4301_digits_is_refused :
    ¬ ∀ document : Text, ∀ block ∈ Sql.segment document, ∀ fault,
      parse block = .error fault → fault.isUnreadableTable = true := by
  intro unreadable
  have figures : ∀ digit ∈ List.replicate 4301 '1', digit ∈ Decimal.figures := by
    intro digit member
    rw [List.eq_of_mem_replicate member]
    decide
  have long : Decimal.digitLimit < (List.replicate 4301 '1').length := by
    rw [List.length_replicate]
    decide
  have refused := unreadable (sizedTable (List.replicate 4301 '1')) _
    (by rw [segment_sizedTable figures]; exact List.mem_singleton_self _) _
    (parse_sizedTable figures long)
  cases refused

end Table

end SchemaSeed
