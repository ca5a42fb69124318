import SchemaSeed.Proofs.Sql.Candidate
import SchemaSeed.Proofs.Table.Quiet

/-! The layout of a declaration: its quotes and parentheses are closed and its words are
a single space apart.  It therefore falls apart into its head and its items, each of them
unchanged. -/

namespace SchemaSeed

namespace Declaration

open Sql (Nested)

/-! ## Closed quotes and parentheses -/

/-- A character that stands for itself outside of quotes. -/
def IsOrdinary (character : Char) : Prop :=
  Sql.isQuote character = false ∧ character ≠ '(' ∧ character ≠ ')' ∧ character ≠ ','

instance (character : Char) : Decidable (IsOrdinary character) := by
  unfold IsOrdinary
  infer_instance

theorem nested_of_ordinary {commas : Bool} {text : Text}
    (ordinary : ∀ character ∈ text, IsOrdinary character) : Nested commas text :=
  .of_plain fun character member =>
    have known := ordinary character member
    ⟨known.1, known.2.1, known.2.2.1, fun comma => absurd comma known.2.2.2⟩

theorem Name.nested (name : Name) {commas : Bool} : Nested commas name.quoted :=
  .quoted rfl fun character member =>
    ⟨name.ne (by decide) character member, name.ne (by decide) character member⟩

theorem Member.nested (member : Member) {commas : Bool} : Nested commas member.literal :=
  .quoted rfl member.closed

theorem Numeral.nested (numeral : Numeral) {commas : Bool} : Nested commas numeral.digits := by
  have ordinary : ∀ digit ∈ Decimal.figures, IsOrdinary digit := by decide
  apply nested_of_ordinary
  intro digit member
  exact ordinary digit (numeral.mem_figures digit member)

theorem Keyword.ordinary (keyword : Keyword) :
    ∀ character ∈ keyword.text, IsOrdinary character := by
  have ordinary : ∀ entry ∈ Column.typeKeywords, ∀ character ∈ entry.1, IsOrdinary character := by
    decide
  exact ordinary _ keyword.known

theorem Kind.nested_tail (unsigned : Bool) : Nested false (Kind.tail unsigned) :=
  nested_of_ordinary (by cases unsigned <;> decide)

theorem Kind.nested_literals (first : Member) (others : List Member) :
    ∀ literal ∈ (first :: others).map (·.literal), Nested false literal := by
  intro literal found
  rcases List.mem_map.mp found with ⟨member, -, rfl⟩
  exact member.nested

theorem Kind.nested_membersText (first : Member) (others : List Member) :
    Nested true (membersText first others) :=
  Sql.nested_join (nested_literals first others)

theorem Kind.nested (kind : Kind) : Nested false kind.text := by
  cases kind with
  | typed keyword length unsigned =>
      refine .append (.append (nested_of_ordinary keyword.ordinary) ?_) (nested_tail unsigned)
      cases length with
      | none => exact .nil
      | some numeral => exact .group numeral.nested
  | enumeration first others =>
      have shape : (enumeration first others).text =
          "ENUM".toList ++ ('(' :: membersText first others ++ [')']) ++ tail false := by
        simp [text]
      rw [shape]
      exact .append (.append (nested_of_ordinary (by decide))
        (.group (nested_membersText first others))) (nested_tail false)

theorem Field.nested (field : Field) : Nested false field.text :=
  .append field.name.nested
    (.cons (by decide) (by decide) (by decide) (fun comma => by cases comma) field.kind.nested)

variable (declaration : Declaration)

theorem nested_items : ∀ item ∈ declaration.items, Nested false item := by
  refine declaration.forall_items ?_ ?_ ?_
  · exact .append declaration.primaryKey.nested (nested_of_ordinary (by decide))
  · intro field _
    exact field.nested
  · have shape : declaration.keyClause =
        "PRIMARY KEY ".toList ++ ('(' :: declaration.primaryKey.quoted ++ [')']) := by
      unfold keyClause
      rw [List.append_assoc]
    rw [shape]
    exact .append (nested_of_ordinary (by decide)) (.group declaration.primaryKey.nested)

/-! ## Single spaces -/

theorem Name.gaps (name : Name) (gap : Bool) : Text.gaps gap name.quoted = some false :=
  Text.gaps_of_solid
    (name.forall_quoted (by decide) fun _ known => Sql.isBlank_of_isNameCharacter known)
    (List.cons_ne_nil _ _) gap

theorem Member.gaps (member : Member) (gap : Bool) :
    Text.gaps gap member.literal = some false := by
  have spaced := Text.gaps_of_isolatedSpaces member.isolated false fun gap => nomatch gap
  rcases spaced with ⟨last, read⟩
  have opened : Text.gaps gap member.literal = Text.gaps false (member.text ++ ['\'']) := rfl
  rw [opened, Text.gaps_append, read]
  rfl

theorem Kind.gaps_membersText (first : Member) (others : List Member) (gap : Bool) :
    Text.gaps gap (membersText first others) = some false := by
  induction others generalizing first gap with
  | nil =>
      rw [membersText_singleton]
      exact first.gaps gap
  | cons second others induction =>
      rw [membersText_cons, Text.gaps_append, first.gaps]
      exact induction second false

theorem Kind.gaps_lengthText (length : Option Numeral) :
    Text.gaps false (lengthText length) = some false := by
  cases length with
  | none => rfl
  | some numeral =>
      exact Text.gaps_of_solid (forall_lengthText (some numeral) (by decide))
        (List.cons_ne_nil _ _) false

theorem Keyword.solid (keyword : Keyword) :
    keyword.text ≠ [] ∧ ∀ character ∈ keyword.text, Character.isBlank character = false := by
  have solid : ∀ entry ∈ Column.typeKeywords, entry.1 ≠ [] ∧
      ∀ character ∈ entry.1, Character.isBlank character = false := by decide
  exact solid _ keyword.known

theorem Kind.gaps_tail (unsigned : Bool) : Text.gaps false (tail unsigned) = some false := by
  cases unsigned <;> decide

theorem Kind.gaps (kind : Kind) (gap : Bool) : Text.gaps gap kind.text = some false := by
  cases kind with
  | typed keyword length unsigned =>
      rcases keyword.solid with ⟨nonempty, solid⟩
      rw [text, Text.gaps_append, Text.gaps_append, Text.gaps_of_solid solid nonempty,
        Option.bind_some, gaps_lengthText, Option.bind_some, gaps_tail]
  | enumeration first others =>
      have shape : (enumeration first others).text =
          "ENUM(".toList ++ (membersText first others ++ (')' :: tail false)) := by
        simp [text]
      have front : Text.gaps gap "ENUM(" = some false := by cases gap <;> decide
      rw [shape, Text.gaps_append, front, Option.bind_some, Text.gaps_append, gaps_membersText,
        Option.bind_some]
      exact gaps_tail false

theorem Field.gaps (field : Field) (gap : Bool) : Text.gaps gap field.text = some false := by
  rw [text, Text.gaps_append, field.name.gaps, Option.bind_some]
  exact field.kind.gaps true

theorem gaps_items : ∀ item ∈ declaration.items, Text.gaps true item = some false := by
  refine declaration.forall_items ?_ ?_ ?_
  · rw [keyField, Text.gaps_append, declaration.primaryKey.gaps]
    decide
  · intro field _
    exact field.gaps true
  · have front : Text.gaps true "PRIMARY KEY " = some true := by decide
    have opened : Text.gaps true ('(' :: declaration.primaryKey.quoted) =
        Text.gaps false declaration.primaryKey.quoted := rfl
    unfold keyClause
    rw [Text.gaps_append, Text.gaps_append, front,
      Option.bind_some, opened, declaration.primaryKey.gaps]
    rfl

theorem collapse_head :
    Text.collapse (declaration.head ++ [' ']) = declaration.head := by
  have front : Text.gaps true "CREATE TABLE " = some true := by decide
  rw [Text.collapse_append_blank (by decide)]
  apply Text.collapse_of_gaps
  unfold head
  rw [Text.gaps_append, front, Option.bind_some, declaration.name.gaps]

/-! ## Candidates -/

/-- Items that are joined with commas and spaces are items joined with commas, all but
the first with a space in front. -/
theorem join_comma_space (first : Text) (rest : List Text) :
    Text.join ", " (first :: rest) = Text.join "," (first :: rest.map (' ' :: ·)) := by
  induction rest generalizing first with
  | nil => rw [Text.join_singleton, List.map_nil, Text.join_singleton]
  | cons second rest induction =>
      have shift : Text.join "," ((' ' :: second) :: rest.map (' ' :: ·)) =
          ' ' :: Text.join "," (second :: rest.map (' ' :: ·)) := by
        cases rest with
        | nil => simp
        | cons third rest => simp
      rw [List.map_cons, Text.join_cons_cons, Text.join_cons_cons, induction, shift]
      simp

theorem collapse_item {item : Text} (single : Text.gaps true item = some false) :
    Text.collapse item = item ∧ Text.collapse (' ' :: item) = item ∧ item.isEmpty = false := by
  have whole := Text.collapse_of_gaps single
  refine ⟨whole, ?_, ?_⟩
  · rw [Text.collapse_blank_cons (by decide), whole]
  · cases item with
    | nil => cases single
    | cons => rfl

theorem tidied_items {first : Text} {rest : List Text}
    (single : ∀ item ∈ first :: rest, Text.gaps true item = some false) :
    Sql.tidied (first :: rest.map (' ' :: ·)) = first :: rest := by
  have tail : Sql.tidied (rest.map (' ' :: ·)) = rest := by
    induction rest with
    | nil => rfl
    | cons item rest induction =>
        rcases collapse_item (single item (by simp)) with ⟨-, collapsed, full⟩
        have later := induction fun item member => single item <| by
          rcases List.mem_cons.mp member with rfl | member
          · exact List.mem_cons_self
          · exact List.mem_cons_of_mem _ (List.mem_cons_of_mem _ member)
        simp only [Sql.tidied] at later ⊢
        simp only [List.map_cons, List.filter_cons, collapsed, full, Bool.not_false, if_true, later]
  rcases collapse_item (single first List.mem_cons_self) with ⟨collapsed, -, full⟩
  simp only [Sql.tidied] at tail ⊢
  simp only [List.map_cons, List.filter_cons, collapsed, full, Bool.not_false, if_true, tail]

theorem searchFrom_head (text : Text) :
    Sql.searchFrom Sql.Scan.start none 0 (declaration.head ++ [' '] ++ text) =
      Sql.searchFrom Sql.Scan.start none (declaration.head ++ [' ']).length text := by
  have front : ∀ character ∈ "CREATE TABLE ".toList, Sql.isQuote character = false ∧
      character ≠ '(' ∧ character ≠ ')' := by decide
  have inside : ∀ character ∈ declaration.name.text,
      character ≠ Sql.backtick ∧ character ≠ '\\' := fun character member =>
    ⟨declaration.name.ne (by decide) character member,
      declaration.name.ne (by decide) character member⟩
  have shape : declaration.head ++ [' '] ++ text = "CREATE TABLE ".toList ++
      (Sql.backtick :: declaration.name.text ++ Sql.backtick :: ([' '] ++ text)) := by
    unfold head Name.quoted
    simp
  have length : (declaration.head ++ [' ']).length =
      "CREATE TABLE ".toList.length + declaration.name.text.length + 2 + 1 := by
    unfold head Name.quoted
    simp
    omega
  rw [shape, length, Sql.Scan.start, Sql.searchFrom_plain front (by simp),
    Sql.searchFrom_quoted rfl inside (by simp),
    Sql.searchFrom_plain (by decide) (by simp), Nat.zero_add]
  rfl

theorem candidates_statement :
    Sql.candidates declaration.statement = .ok (declaration.head :: declaration.items) := by
  have shape : declaration.statement = declaration.head ++ [' '] ++
      ('(' :: Text.join "," (declaration.keyField ::
        (declaration.fields.map (·.text) ++ [declaration.keyClause]).map (' ' :: ·)) ++
          ')' :: [' ']) := by
    unfold statement items
    rw [join_comma_space]
    simp
  have nested : ∀ item ∈ declaration.keyField ::
      (declaration.fields.map (·.text) ++ [declaration.keyClause]).map (' ' :: ·),
      Nested false item := by
    intro item member
    rcases List.mem_cons.mp member with rfl | member
    · exact declaration.nested_items _ List.mem_cons_self
    · rcases List.mem_map.mp member with ⟨spaced, found, rfl⟩
      exact .cons (by decide) (by decide) (by decide) (fun comma => by cases comma)
        (declaration.nested_items spaced (List.mem_cons_of_mem _ found))
  have tidy := tidied_items declaration.gaps_items
  have full : declaration.head.isEmpty = false := rfl
  rw [shape, Sql.candidates_of_items _ declaration.searchFrom_head nested]
  simp only [Sql.tidied] at tidy ⊢
  rw [List.map_cons, declaration.collapse_head, List.filter_cons, full, tidy]
  rfl

end Declaration

end SchemaSeed
