import SchemaSeed.Proofs.Table.Columns
import SchemaSeed.Proofs.Table.Schema

/-! How the candidates of a declaration are told apart.  Its fields mention no key and
are taken for plain columns, all but the one that bears the name of the primary key; the
clause at the end gives that name. -/

namespace SchemaSeed

namespace Sql

theorem hasOwnWordAfter_eq_false {choices : List Text} {text : Text}
    (absent : ∀ letters ∈ choices, occurs (word? letters) text = false)
    (previous : Option Char) : hasOwnWordAfter choices previous text = false := by
  induction text generalizing previous with
  | nil => rfl
  | cons character text induction =>
      have here : ∀ letters ∈ choices, word? letters (character :: text) = none := by
        intro letters member
        have none := absent letters member
        rw [← silent_nil_iff] at none
        simpa using none.1
      have later : ∀ letters ∈ choices, occurs (word? letters) text = false := by
        intro letters member
        have none := absent letters member
        rw [← silent_nil_iff] at none ⊢
        exact none.2
      rw [hasOwnWordAfter, induction later, Bool.or_false, List.any_eq_false]
      intro letters member
      simp [ownWord?, here letters member]

end Sql

namespace Declaration

/-! ## Masks -/

def Member.empty : Member where
  text := []
  unquoted := by simp
  isolated := ⟨by simp, by decide⟩
  noMarker := rfl
  noEngine := rfl
  noUnsigned := rfl

/-- The same kind with empty members. -/
def Kind.masked : Kind → Kind
  | typed keyword length unsigned => typed keyword length unsigned
  | enumeration _ others => enumeration .empty (others.map fun _ => .empty)

def Field.masked (field : Field) : Field :=
  ⟨field.name, field.kind.masked⟩

@[simp] theorem Kind.unsigned_masked (kind : Kind) : kind.masked.unsigned = kind.unsigned := by
  cases kind <;> rfl

theorem Kind.text_of_mem_masked {kind : Kind} :
    ∀ member ∈ kind.masked.members, member.text = [] := by
  cases kind with
  | typed keyword length unsigned =>
      intro member impossible
      cases impossible
  | enumeration first others =>
      intro member found
      rcases List.mem_cons.mp found with rfl | later
      · rfl
      · rcases List.mem_map.mp later with ⟨_, -, rfl⟩
        rfl

theorem maskFrom_membersText (first : Member) (others : List Member) {rest : Text}
    (single : rest.head? ≠ some '\'') :
    Sql.maskFrom 0 (Kind.membersText first others ++ rest) =
      Kind.membersText .empty (others.map fun _ => .empty) ++ Sql.maskFrom 0 rest := by
  have literal (member : Member) {after : Text} (single : after.head? ≠ some '\'') :
      Sql.maskFrom 0 (member.literal ++ after) = '\'' :: '\'' :: Sql.maskFrom 0 after := by
    have masked := Sql.maskFrom_literal member.closed single
    rw [← masked, Member.literal, List.append_assoc, List.singleton_append]
  induction others generalizing first with
  | nil =>
      rw [Kind.membersText_singleton, literal first single]
      rfl
  | cons second others induction =>
      have shape : Kind.membersText first (second :: others) ++ rest =
          first.literal ++ ([','] ++ (Kind.membersText second others ++ rest)) := by
        rw [Kind.membersText_cons]
        simp
      rw [shape, literal first (by simp), Sql.maskFrom_plain (by decide), induction]
      simp [Kind.membersText, Member.literal, Member.empty]

theorem unquoted_of_isOrdinary {character : Char} (ordinary : IsOrdinary character) :
    character ≠ '\'' ∧ character ≠ '"' := by
  constructor <;> rintro rfl <;> exact absurd ordinary (by decide)

/-- Masking empties the members and leaves everything else. -/
theorem Kind.mask (kind : Kind) : Sql.mask kind.text = kind.masked.text := by
  have figures : ∀ character ∈ '(' :: (Decimal.figures ++ [')']),
      character ≠ '\'' ∧ character ≠ '"' := by decide
  have quotes : ∀ unsigned, ∀ character ∈ tail unsigned, character ≠ '\'' ∧ character ≠ '"' := by
    intro unsigned
    cases unsigned <;> decide
  cases kind with
  | typed keyword length unsigned =>
      apply Sql.mask_of_plain
      refine forall_typed ?_ ?_ ?_
      · intro character member
        exact unquoted_of_isOrdinary (keyword.ordinary character member)
      · exact figures
      · exact quotes unsigned
  | enumeration first others =>
      have shape (first : Member) (others : List Member) : (enumeration first others).text =
          "ENUM(".toList ++ (membersText first others ++ (')' :: tail false)) := by
        simp [text]
      have rest : Sql.maskFrom 0 (')' :: tail false) = ')' :: tail false := by decide
      rw [masked, shape, shape, Sql.mask, Sql.maskFrom_plain (by decide),
        maskFrom_membersText first others (by simp), rest]

theorem Name.ne_closing (name : Name) : ∀ character ∈ name.quoted, character ≠ ')' :=
  name.forall_quoted (by decide) fun _ known => Sql.ne_of_isNameCharacter known (by decide)

theorem Name.unquoted (name : Name) :
    ∀ character ∈ name.quoted, character ≠ '\'' ∧ character ≠ '"' :=
  name.forall_quoted (by decide) fun _ known =>
    ⟨Sql.ne_of_isNameCharacter known (by decide), Sql.ne_of_isNameCharacter known (by decide)⟩

theorem Field.mask (field : Field) : Sql.mask field.text = field.masked.text := by
  have front : ∀ character ∈ field.name.quoted ++ [' '], character ≠ '\'' ∧ character ≠ '"' := by
    intro character member
    rcases List.mem_append.mp member with inName | space
    · exact field.name.unquoted character inName
    · rw [List.mem_singleton.mp space]
      decide
  have shape (kind : Kind) : field.name.quoted ++ ' ' :: kind.text =
      field.name.quoted ++ [' '] ++ kind.text := by
    simp
  have masked : Sql.maskFrom 0 field.kind.text = field.kind.masked.text := field.kind.mask
  have whole := Sql.maskFrom_plain front field.kind.text
  rw [masked] at whole
  rw [text, shape, Sql.mask, whole, Field.masked, text, shape]

/-! ## What a candidate says of the key -/

theorem keyMention_of_silent {candidate : Text}
    (absent : Sql.occurs Sql.primaryKey? (Sql.mask candidate) = false) :
    Reading.keyMention candidate = .silent := by
  have none : Sql.search? Sql.primaryKey? (Sql.mask candidate) = none := by
    simpa [Sql.occurs] using absent
  simp only [Reading.keyMention, none]

theorem Field.keyMention (field : Field) : Reading.keyMention field.text = .silent := by
  apply keyMention_of_silent
  rw [field.mask]
  apply Field.occurs_text (quiet_primaryKey _) (occurs_phrase_of_name _ _ _)
  intro member found
  rw [Kind.text_of_mem_masked member found]
  rfl

variable (declaration : Declaration)

theorem keyMention_keyField : Reading.keyMention declaration.keyField = .silent := by
  apply keyMention_of_silent
  have unmasked : Sql.mask declaration.keyField = declaration.keyField := by
    apply Sql.mask_of_plain
    have plain : ∀ character ∈ " INT NOT NULL".toList, character ≠ '\'' ∧ character ≠ '"' := by
      decide
    intro character member
    rcases List.mem_append.mp member with inName | inType
    · exact declaration.primaryKey.unquoted character inName
    · exact plain character inType
  rw [unmasked]
  exact occurs_keyField (quiet_primaryKey false) declaration (occurs_phrase_of_name _ _ _)

theorem keyMention_keyClause :
    Reading.keyMention declaration.keyClause = .clause declaration.primaryKey.text := by
  have unmasked : Sql.mask declaration.keyClause = declaration.keyClause := by
    apply Sql.mask_of_plain
    have plain : ∀ character ∈ "PRIMARY KEY ".toList, character ≠ '\'' ∧ character ≠ '"' := by
      decide
    intro character member
    rcases List.mem_append.mp member with front | closing
    · rcases List.mem_append.mp front with inWords | inGroup
      · exact plain character inWords
      · rcases List.mem_cons.mp inGroup with rfl | inName
        · decide
        · exact declaration.primaryKey.unquoted character inName
    · rw [List.mem_singleton.mp closing]
      decide
  have words : Sql.primaryKey? "PRIMARY KEY " = some [' '] := by decide
  have found : Sql.search? Sql.primaryKey? declaration.keyClause =
      some ([' '] ++ '(' :: (declaration.primaryKey.quoted ++ [')'])) := by
    have barred := (quiet_primaryKey false).barred '(' (by decide) "PRIMARY KEY "
      (declaration.primaryKey.quoted ++ [')'])
    rw [words] at barred
    have shape : declaration.keyClause =
        "PRIMARY KEY ".toList ++ '(' :: (declaration.primaryKey.quoted ++ [')']) := by
      unfold keyClause
      rw [List.append_assoc, List.cons_append]
    rw [shape]
    exact Sql.search?_of_match (by simp) barred
  have unnamed : (Column.splitName declaration.keyClause).1 = none :=
    Reading.splitName_of_head (by decide) (by decide) _
  have span : ([' '] ++ '(' :: (declaration.primaryKey.quoted ++ [')'])).takeWhile (· != ')') =
      [' ', '('] ++ (Sql.backtick :: declaration.primaryKey.text ++ Sql.backtick :: []) := by
    have shape : [' '] ++ '(' :: (declaration.primaryKey.quoted ++ [')']) =
        ([' ', '('] ++ declaration.primaryKey.quoted) ++ [')'] := by
      simp
    have inside : ∀ character ∈ [' ', '('] ++ declaration.primaryKey.quoted,
        (character != ')') = true := by
      intro character member
      rcases List.mem_append.mp member with front | inName
      · have plain : ∀ character ∈ [' ', '('], (character != ')') = true := by decide
        exact plain character front
      · exact bne_iff_ne.mpr (declaration.primaryKey.ne_closing character inName)
    rw [shape, List.takeWhile_append_of_pos inside]
    simp [Name.quoted]
  have name := @Sql.firstName?_append [' ', '('] _ (by decide)
    declaration.primaryKey.nonempty declaration.primaryKey.known []
  simp only [Reading.keyMention, unmasked, found, unnamed, span, name]

/-! ## Plain columns -/

theorem Field.isPlainColumn {field : Field} {primaryKey : Text}
    (distinct : field.name.text ≠ primaryKey) :
    Reading.isPlainColumn primaryKey field.text = true := by
  have noMarker : Sql.occurs Sql.tableMarker? field.text = false := by
    apply Field.occurs_text (quiet_tableMarker _) (occurs_phrase_of_name _ _ _)
    intro member _
    exact member.noMarker
  have noMember {matcher : Text → Option Text} (quiet : Quiet matcher field.kind.unsigned) :
      Sql.occurs matcher field.kind.masked.text = false := by
    apply @Sql.occurs_right _ [' ']
    apply Kind.occurs_text (by simpa using quiet)
    intro member found
    rw [Kind.text_of_mem_masked member found]
    rfl
  have noKey : Sql.mentionsKey field.kind.masked.text = false := by
    apply Sql.hasOwnWordAfter_eq_false
    intro letters member
    exact noMember (quiet_keyWords _ letters member)
  have noTimestamp : Sql.mentionsTimestamp field.kind.masked.text = false :=
    noMember (quiet_timestamp _)
  simp only [Reading.isPlainColumn, noMarker, field.splitName, field.kind.mask, noKey,
    noTimestamp]
  simpa using distinct

theorem isPlainColumn_keyField :
    Reading.isPlainColumn declaration.primaryKey.text declaration.keyField = false := by
  have shape : declaration.keyField = Sql.backtick :: declaration.primaryKey.text ++
      Sql.backtick :: " INT NOT NULL".toList := by
    unfold keyField Name.quoted
    simp
  have split := Column.splitName_append declaration.primaryKey.nonempty
    declaration.primaryKey.known " INT NOT NULL"
  rw [← shape] at split
  simp only [Reading.isPlainColumn, split, bne_self_eq_false, Bool.and_false, ite_self]

end Declaration

end SchemaSeed
