import Mathlib.Data.List.Infix
import SchemaSeed.Proofs.Destination.DryRun
import SchemaSeed.Proofs.Literal.Fillable
import SchemaSeed.Proofs.Report.Grid
import SchemaSeed.Proofs.Report.Markup
import SchemaSeed.Proofs.Report.Results
import SchemaSeed.Proofs.Table.PrimaryKey
import SchemaSeed.Proofs.Text.OneLine

/-! The report on tables that were read.  Names, categories and lengths show as they are.  The
members of an enumeration are handed on as they stand in the schema, so they are read as markup:
they show as they are if they are plain, and a report on members that cannot be read or name an
unknown style ends before the first table that has them. -/

namespace SchemaSeed

/-! ## Columns as they were read -/

namespace Column

/-- A number that has no more digits than a numeral may have. -/
def IsSpellable (number : Nat) : Prop :=
  ∃ digits : Text, digits.length ≤ Decimal.digitLimit ∧ number = Decimal.value digits

theorem isSpellable_zero : IsSpellable 0 :=
  ⟨[], Nat.zero_le _, rfl⟩

theorem isSpellable_of_declaredLength {text : Text} {length : Nat}
    (declared : declaredLength text = .ok length) : IsSpellable length := by
  simp only [declaredLength] at declared
  split at declared
  case isTrue => cases declared
  case isFalse short =>
    cases declared
    exact ⟨_, Nat.le_of_not_lt short, rfl⟩

theorem isSpellable_of_ofCategory {name declaration : Text} {unsigned : Bool} {typeEnd : Nat}
    {category : Category} {column : Column}
    (read : ofCategory name unsigned declaration typeEnd category = .ok column) :
    ∀ length, column.length = some length → IsSpellable length := by
  simp only [ofCategory] at read
  split at read
  case isTrue =>
    cases read
    rintro _ ⟨⟩
  case isFalse =>
    split at read
    case h_1 => cases read
    case h_2 declared =>
      have spellable := isSpellable_of_declaredLength declared
      split at read
      case h_1 =>
        split at read
        case h_1 => cases read
        all_goals
          cases read
          rintro _ ⟨⟩
          exact isSpellable_zero
      case h_2 =>
        cases read
        rintro _ ⟨⟩
        split
        case isTrue => exact ⟨['2', '5', '5'], by decide, by decide⟩
        case isFalse => exact spellable
      case h_3 =>
        cases read
        rintro _ ⟨⟩
        exact spellable

/-- A length that was read can be written. -/
theorem isTooLong_length {definition : Text} {column : Column}
    (classified : classify definition = .ok column) {length : Nat}
    (known : column.length = some length) : Decimal.isTooLong length = false := by
  have spellable : IsSpellable length := by
    simp only [classify] at classified
    split at classified
    case h_1 =>
      cases classified
      cases known
      exact isSpellable_zero
    case h_2 => exact isSpellable_of_ofCategory classified length known
  rcases spellable with ⟨digits, short, denoted⟩
  exact Decimal.isTooLong_value short denoted

end Column

namespace Table

variable {block : Text} {table : Table} (parsed : parse block = .ok table)

include parsed

/-- The only blanks in members are spaces. -/
theorem eq_space_of_mem_members {column : Column} (member : column ∈ table.columns) {text : Text}
    (present : text ∈ column.members) {character : Char} (inside : character ∈ text)
    (blank : Character.isBlank character = true) : character = ' ' := by
  rcases exists_candidate parsed member with
    ⟨candidates, candidate, declaration, found, among, split, classified⟩
  rcases Sql.exists_definition found among with ⟨definition, -, rfl⟩
  have named : (Column.splitName definition.collapse).1.isSome = true := by rw [split]; rfl
  by_cases category : column.category = some .enumeration
  · rw [(Column.members_eq_items named classified category).1] at present
    rcases List.mem_map.mp present with ⟨item, -, rfl⟩
    exact (Text.squeezed_collapse item).1.eq_space character (Text.trim_subset _ _ inside) blank
  · rw [(Column.consistent_of_classify classified).members_eq_nil_iff.mpr category] at present
    cases present

end Table

namespace Report

open Grid (Keeps Shows)
open Markup (IsPlain)

/-! ## Simple cells -/

/-- A text without blanks, brackets, colons and controls. -/
def IsSimple (text : Text) : Prop :=
  ∀ character ∈ text, Character.isBlank character = false ∧ character ≠ '[' ∧ character ≠ ':' ∧
    Markup.isControl character = false

instance (text : Text) : Decidable (IsSimple text) :=
  decidableForallMem text _

namespace IsSimple

variable {text : Text} (simple : IsSimple text)

include simple

theorem isPlain : IsPlain text :=
  .of_no_bracket (fun member => absurd rfl (simple '[' member).2.1)
    (Emoji.nameless_of_no_colon fun member => absurd rfl (simple ':' member).2.2.1)
    fun character member => (simple character member).2.2.2

theorem not_mem_of_blank {character : Char} (blank : Character.isBlank character = true) :
    character ∉ text := by
  intro member
  have solid := (simple character member).1
  rw [blank] at solid
  cases solid

theorem endsSolid : Marked.EndsSolid text :=
  fun last found => (simple last (List.mem_of_getLast? found)).1

end IsSimple

theorem isSimple_of_isName {name : Text} (proper : Sql.IsName name) : IsSimple name := by
  intro character member
  have known := proper.2 character member
  have visible := Sql.oneLine_of_isName proper character member
  refine ⟨Sql.isBlank_of_isNameCharacter known, Sql.ne_of_isNameCharacter known (by decide),
    Sql.ne_of_isNameCharacter known (by decide), ?_⟩
  rw [Markup.isControl, decide_eq_false_iff_not]
  simp only [List.mem_cons, List.not_mem_nil, or_false]
  omega

/-- What the report has in the cells of a column. -/
def cells (column : Column) : List Text := [
  column.name,
  (column.category.map Category.name).getD "unsupported",
  (column.length.map Decimal.natural).getD [],
  if column.unsigned then "yes" else [],
  Text.join ", " column.members]

theorem isSimple_category (category : Option Category) :
    IsSimple ((category.map Category.name).getD "unsupported") := by
  cases category with
  | none => decide
  | some category => cases category <;> decide

theorem isSimple_length (length : Option Nat) :
    IsSimple ((length.map Decimal.natural).getD []) := by
  have figures : IsSimple Decimal.figures := by decide
  cases length with
  | none => decide
  | some length =>
      exact fun character member =>
        figures character (Decimal.mem_figures_of_mem_natural length character member)

theorem isSimple_unsigned (unsigned : Bool) : IsSimple (if unsigned then "yes" else []) := by
  cases unsigned <;> decide

theorem modelRow_of_classify {definition : Text} {column : Column}
    (classified : Column.classify definition = .ok column) :
    modelRow column = .ok (cells column) := by
  rw [modelRow, cells]
  cases known : column.length with
  | none => cases column.category <;> rfl
  | some length =>
      have written : Decimal.integer length = Decimal.natural length := by
        simp [Decimal.integer]
      dsimp only
      rw [number_of_short (Column.isTooLong_length classified known), written]
      cases column.category <;> rfl

/-! ## Lines -/

/-- The line shows what is known of the column.  Its members are in the last cell, where they are
shown as they are if they are plain and no blanks at their end are cut off. -/
structure ShowsColumn (column : Column) (line : Text) : Prop where
  single : '\n' ∉ line
  boxed : ∃ name category length unsigned members,
    line = Grid.boxed [name, category, length, unsigned, members] ∧
      Shows column.name name ∧
      Shows ((column.category.map Category.name).getD "unsupported") category ∧
      Shows ((column.length.map Decimal.natural).getD []) length ∧
      Shows (if column.unsigned then "yes" else []) unsigned ∧
      (IsPlain (Text.join ", " column.members) →
        Keeps .left (Text.join ", " column.members) →
          Shows (Text.join ", " column.members) members)

/-- What stands above the table. -/
def title (table : Table) : Text :=
  table.name ++ " (primary key: " ++ table.primaryKey ++ ")"

/-- The report has its title and one line for each column of the table, in their order. -/
def ShowsTable (table : Table) (report : Text) : Prop :=
  ∃ heading above lines below, Shows (title table) heading ∧
    List.Forall₂ ShowsColumn table.columns lines ∧
    report = (heading :: above ++ lines ++ below).flatMap (· ++ ['\n'])

/-- A cell that is read as it stands shows as it stands. -/
theorem shows_of_plain {text : Text} {marked : Marked} (read : Markup.read text = .ok marked)
    (plain : IsPlain text) {alignment : Grid.Alignment} (keeps : Keeps alignment text)
    (untabbed : '\t' ∉ text) (single : '\n' ∉ text) {width : Nat}
    (wide : Grid.cellWidth marked ≤ width) :
    Shows text (Grid.filled alignment width marked) := by
  cases (Markup.read_of_plain plain).symm.trans read
  rw [Grid.cellWidth_of_single single] at wide
  exact Grid.filled_shows keeps untabbed wide

theorem shows_of_simple {text : Text} {marked : Marked} (read : Markup.read text = .ok marked)
    (simple : IsSimple text) (alignment : Grid.Alignment) {width : Nat}
    (wide : Grid.cellWidth marked ≤ width) :
    Shows text (Grid.filled alignment width marked) :=
  shows_of_plain read simple.isPlain (.inl simple.endsSolid)
    (simple.not_mem_of_blank (by decide)) (simple.not_mem_of_blank (by decide)) wide

section Rows

variable {block : Text} {table : Table} (parsed : Table.parse block = .ok table) {column : Column}
  (member : column ∈ table.columns)

include parsed member

/-- The only blanks in the cells of a column are spaces. -/
theorem eq_space_of_mem_cells {cell : Text} (among : cell ∈ cells column) {character : Char}
    (inside : character ∈ cell) (blank : Character.isBlank character = true) :
    character = ' ' := by
  have absent {text : Text} (simple : IsSimple text) (inside : character ∈ text) :
      character = ' ' := absurd inside (simple.not_mem_of_blank blank)
  simp only [cells, List.mem_cons, List.not_mem_nil, or_false] at among
  rcases among with rfl | rfl | rfl | rfl | rfl
  · exact absent (isSimple_of_isName ((Table.names_of_parse parsed).2 column member)) inside
  · exact absent (isSimple_category column.category) inside
  · exact absent (isSimple_length column.length) inside
  · exact absent (isSimple_unsigned column.unsigned) inside
  · rcases Text.mem_of_mem_join inside with between | ⟨text, present, here⟩
    · have signs : ∀ sign ∈ [',', ' '], Character.isBlank sign = true → sign = ' ' := by decide
      exact signs character between blank
    · exact Table.eq_space_of_mem_members parsed member present here blank

/-- The row of a column is one line that shows it, if there is room for each of its cells. -/
theorem row_shows {texts : List Marked}
    (read : List.Forall₂ (fun cell text => Markup.read cell = .ok text) (cells column) texts)
    {widths : List Nat} (wide : List.Forall₂ (· ≤ ·) (texts.map Grid.cellWidth) widths) :
    ∃ line, Grid.row modelColumns widths texts = [line] ∧ ShowsColumn column line := by
  have clean : ∀ text ∈ texts, '\n' ∉ text.text ∧ '\t' ∉ text.text := by
    intro text among
    rcases exists_of_mem_right read among with ⟨cell, present, readCell⟩
    have absent {character : Char} (blank : Character.isBlank character = true)
        (different : character ≠ ' ') : character ∉ text.text := fun inside =>
      different (eq_space_of_mem_cells parsed member present
        (Markup.mem_of_read readCell blank inside) blank)
    exact ⟨absent (by decide) (by decide), absent (by decide) (by decide)⟩
  have row := @Grid.row_of_single modelColumns widths texts fun text among => (clean text among).1
  have single := @Grid.newline_not_mem_row modelColumns widths texts clean
  rw [row, List.forall_mem_singleton] at single
  refine ⟨_, row, single, ?_⟩
  have inCells {cell : Text} (among : cell ∈ cells column) {character : Char}
      (blank : Character.isBlank character = true) (different : character ≠ ' ') :
      character ∉ cell := fun inside =>
    different (eq_space_of_mem_cells parsed member among inside blank)
  -- The five cells one by one, each with the width of its column.
  rcases read with _ | ⟨readName, _ | ⟨readCategory, _ | ⟨readLength, _ | ⟨readUnsigned,
    _ | ⟨readMembers, ⟨⟩⟩⟩⟩⟩⟩
  rcases wide with _ | ⟨wideName, _ | ⟨wideCategory, _ | ⟨wideLength, _ | ⟨wideUnsigned,
    _ | ⟨wideMembers, ⟨⟩⟩⟩⟩⟩⟩
  refine ⟨_, _, _, _, _, rfl, ?_, ?_, ?_, ?_, ?_⟩
  · exact shows_of_simple readName
      (isSimple_of_isName ((Table.names_of_parse parsed).2 column member)) .left wideName
  · exact shows_of_simple readCategory (isSimple_category column.category) .left wideCategory
  · exact shows_of_simple readLength (isSimple_length column.length) .right wideLength
  · exact shows_of_simple readUnsigned (isSimple_unsigned column.unsigned) .center wideUnsigned
  · intro plain keeps
    have among : Text.join ", " column.members ∈ cells column := by simp [cells]
    exact shows_of_plain readMembers plain keeps (inCells among (by decide) (by decide))
      (inCells among (by decide) (by decide)) wideMembers

end Rows

/-! ## Titles -/

/-- A single colon stands before nothing that could be the name of a pictograph. -/
theorem nameless_of_single_colon {text : Text} (single : text.count ':' ≤ 1) :
    Emoji.Nameless text := by
  rintro before code after rfl
  simp only [List.count_append, List.count_cons_self] at single
  omega

theorem endsSolid_title (table : Table) : Marked.EndsSolid (title table) := by
  intro last found
  have closing : (title table).getLast? = some ')' := List.getLast?_concat
  cases closing.symm.trans found
  decide

section Title

variable {block : Text} {table : Table} (parsed : Table.parse block = .ok table)

include parsed

theorem isSimple_names : IsSimple table.name ∧ IsSimple table.primaryKey :=
  ⟨isSimple_of_isName (Table.names_of_parse parsed).1,
    isSimple_of_isName (Table.isName_primaryKey parsed)⟩

/-- Brackets and controls are as rare in a title as in the names it holds. -/
theorem forall_mem_title : ∀ character ∈ title table,
    character ≠ '[' ∧ Markup.isControl character = false ∧
      (Character.isBlank character = true → character = ' ') := by
  have ofSimple {text : Text} (simple : IsSimple text) : ∀ character ∈ text,
      character ≠ '[' ∧ Markup.isControl character = false ∧
        (Character.isBlank character = true → character = ' ') := by
    intro character member
    rcases simple character member with ⟨solid, bracket, -, control⟩
    exact ⟨bracket, control, fun blank => absurd (solid.symm.trans blank) (by decide)⟩
  have fixed : ∀ character ∈ " (primary key: )".toList,
      character ≠ '[' ∧ Markup.isControl character = false ∧
        (Character.isBlank character = true → character = ' ') := by decide
  rcases isSimple_names parsed with ⟨name, key⟩
  intro character member
  simp only [title, List.mem_append] at member
  rcases member with ((inName | between) | inKey) | closing
  · exact ofSimple name character inName
  · exact fixed character (List.mem_append_left [')'] between)
  · exact ofSimple key character inKey
  · exact fixed character (List.mem_append_right " (primary key: ".toList closing)

theorem isPlain_title : IsPlain (title table) := by
  rcases isSimple_names parsed with ⟨name, key⟩
  have none {text : Text} (simple : IsSimple text) : text.count ':' = 0 :=
    List.count_eq_zero.mpr fun member => absurd rfl (simple ':' member).2.2.1
  have single : (title table).count ':' = 1 := by
    simp only [title, List.count_append, none name, none key]
    decide
  have known := forall_mem_title parsed
  exact .of_no_bracket (fun member => absurd rfl (known '[' member).1)
    (nameless_of_single_colon (Nat.le_of_eq single)) fun character member =>
      (known character member).2.1

/-- The title stands on a line of its own. -/
theorem title_shows {heading : Marked} (read : Markup.read (title table) = .ok heading)
    (widths : List Nat) :
    ∃ line, Grid.centered widths (some heading) = [line] ∧ Shows (title table) line := by
  cases (Markup.read_of_plain (isPlain_title parsed)).symm.trans read
  have absent {character : Char} (blank : Character.isBlank character = true)
      (different : character ≠ ' ') : character ∉ title table := fun inside =>
    different ((forall_mem_title parsed character inside).2.2 blank)
  have single : '\n' ∉ title table := absent (by decide) (by decide)
  have untabbed : '\t' ∉ title table := absent (by decide) (by decide)
  rcases @Grid.align_of_keeps .center _ (.inl (endsSolid_title table)) (Grid.totalWidth widths) with
    ⟨before, after, -, aligned⟩
  refine ⟨_, ?_, before, after, rfl⟩
  rw [Grid.centered, @Marked.lines_of_single ⟨title table, []⟩ single, List.map_singleton,
    @Marked.expandTabs_of_untabbed ⟨title table, []⟩ untabbed, aligned]

end Title

/-! ## Tables -/

section Tables

variable {block : Text} {table : Table} (parsed : Table.parse block = .ok table)

include parsed

theorem mapM_modelRow : table.columns.mapM modelRow = .ok (table.columns.map cells) := by
  rw [mapM_eq_ok_iff, List.forall₂_map_right_iff, List.forall₂_same]
  intro column member
  rcases Table.exists_candidate parsed member with ⟨_, _, _, -, -, -, classified⟩
  exact modelRow_of_classify classified

theorem readable_of_mem_cells {column : Column} (member : column ∈ table.columns) :
    (∀ cell ∈ cells column, Readable cell) ↔ Readable (Text.join ", " column.members) := by
  have simple {text : Text} (simple : IsSimple text) : Readable text :=
    readable_of_read (Markup.read_of_plain simple.isPlain)
  simp only [cells, List.forall_mem_cons, List.not_mem_nil, false_implies, implies_true, and_true,
    simple (isSimple_of_isName ((Table.names_of_parse parsed).2 column member)),
    simple (isSimple_category column.category), simple (isSimple_length column.length),
    simple (isSimple_unsigned column.unsigned), true_and]

/-- Nothing but the members of a column can keep a table from being shown. -/
theorem exists_model_iff :
    (∃ text, model table = .ok text) ↔
      ∀ column ∈ table.columns, Readable (Text.join ", " column.members) := by
  have titled : Readable (title table) :=
    readable_of_read (Markup.read_of_plain (isPlain_title parsed))
  rw [model, mapM_modelRow parsed]
  refine exists_grid_iff.trans ?_
  simp only [List.forall_mem_map]
  constructor
  · rintro ⟨-, readable⟩ column member
    exact (readable_of_mem_cells parsed member).mp (readable column member)
  · intro readable
    exact ⟨titled, fun column member =>
      (readable_of_mem_cells parsed member).mpr (readable column member)⟩

/-- A table that is not shown has members that cannot be read. -/
theorem exists_unreadable {fault : Fault} (failed : model table = .error fault) :
    ∃ column ∈ table.columns, ¬ Readable (Text.join ", " column.members) := by
  by_contra none
  have all : ∀ column ∈ table.columns, Readable (Text.join ", " column.members) :=
    fun column member => by_contra fun unread => none ⟨column, member, unread⟩
  rcases (exists_model_iff parsed).mpr all with ⟨text, shown⟩
  cases failed.symm.trans shown

theorem rows_show {columns : List Column} (among : ∀ column ∈ columns, column ∈ table.columns)
    {marked : List (List Marked)} (read : ReadAs (columns.map cells) marked) {widths : List Nat}
    (wide : ∀ texts ∈ marked, List.Forall₂ (· ≤ ·) (texts.map Grid.cellWidth) widths) :
    List.Forall₂ ShowsColumn columns (marked.flatMap (Grid.row modelColumns widths)) := by
  induction columns generalizing marked with
  | nil =>
      cases read
      exact .nil
  | cons column columns induction =>
      rcases read with _ | ⟨first, rest⟩
      rw [List.forall_mem_cons] at among wide
      rcases row_shows parsed among.1 first wide.1 with ⟨line, row, shows⟩
      rw [List.flatMap_cons, row]
      exact .cons shows (induction among.2 rest wide.2)

theorem showsTable_of_model {text : Text} (shown : model table = .ok text) :
    ShowsTable table text := by
  rw [model, mapM_modelRow parsed] at shown
  rcases exists_of_grid shown with ⟨heading, marked, readTitle, read, -, rfl⟩
  rcases title_shows parsed readTitle (Grid.widths modelColumns marked) with ⟨line, centered, shows⟩
  have shaped : ∀ row ∈ marked, row.length = (modelColumns.map (·.heading.width)).length := by
    intro row member
    rcases exists_of_mem_right read member with ⟨texts, amongTexts, readRow⟩
    rcases List.mem_map.mp amongTexts with ⟨column, -, rfl⟩
    rw [← readRow.length_eq]
    rfl
  have lines := rows_show parsed (fun _ member => member) read (Grid.le_foldl_widths shaped).2
  rcases Grid.exists_render (some heading) none modelColumns marked with ⟨above, below, rendered⟩
  rw [centered] at rendered
  exact ⟨line, above, _, below, shows, lines, rendered⟩

end Tables

/-- The reports are those of the tables up to the first that cannot be shown. -/
theorem exists_of_modelsFrom (tables : List Table) :
    ∃ shown rest reports, tables = shown ++ rest ∧
      List.Forall₂ (fun table report => model table = .ok report) shown reports ∧
      (modelsFrom tables).1 = reports.flatten ∧
      ((modelsFrom tables).2 = none ∧ rest = [] ∨
        ∃ fault table later, (modelsFrom tables).2 = some fault ∧ rest = table :: later ∧
          model table = .error fault) := by
  induction tables with
  | nil => exact ⟨[], [], [], rfl, .nil, rfl, .inl ⟨rfl, rfl⟩⟩
  | cons table tables induction =>
      cases made : model table with
      | error fault =>
          refine ⟨[], table :: tables, [], rfl, .nil, ?_,
            .inr ⟨fault, table, tables, ?_, rfl, made⟩⟩
          all_goals simp only [modelsFrom, made, List.flatten_nil]
      | ok report =>
          rcases induction with ⟨shown, rest, reports, rfl, reported, text, ending⟩
          refine ⟨table :: shown, rest, report :: reports, rfl, .cons made reported, ?_, ?_⟩
          · simp only [modelsFrom, made, text, List.flatten_cons]
          · simpa only [modelsFrom, made] using ending

theorem models_eq (tables : List Table) :
    models tables =
      (if tables.isEmpty then emptyText else (modelsFrom tables).1, (modelsFrom tables).2) := by
  cases tables <;> rfl

/-- The report on tables that were read has, for each of them in order, a title and one line per
column, which shows its name, category and length, and its members as they are if they are
plain.  It ends before the first table with members that cannot be read as markup. -/
theorem report_shows_what_was_read {blocks : List Text} {tables : List Table}
    (parsed : List.Forall₂ (fun block table => Table.parse block = .ok table) blocks tables) :
    ((models tables).2 = none ↔ ∀ table ∈ tables, ∀ column ∈ table.columns,
      Readable (Text.join ", " column.members)) ∧
    ((∀ table ∈ tables, ∀ column ∈ table.columns, IsPlain (Text.join ", " column.members)) →
      (models tables).2 = none) ∧
    ∃ shown rest reports, tables = shown ++ rest ∧
      (models tables).1 = (if tables.isEmpty then emptyText else reports.flatten) ∧
      List.Forall₂ ShowsTable shown reports ∧
      ((models tables).2 = none ↔ rest = []) ∧
      ∀ table later, rest = table :: later →
        ∃ column ∈ table.columns, ¬ Readable (Text.join ", " column.members) := by
  rw [models_eq]
  rcases exists_of_modelsFrom tables with ⟨shown, rest, reports, cut, reported, text, ending⟩
  have source {table : Table} (member : table ∈ tables) :
      ∃ block, Table.parse block = .ok table :=
    (exists_of_mem_right parsed member).imp fun _ => And.right
  have among {table : Table} (member : table ∈ shown) : table ∈ tables := by
    rw [cut]
    exact List.mem_append_left rest member
  have whole : (modelsFrom tables).2 = none ↔ rest = [] := by
    rcases ending with ⟨none, empty⟩ | ⟨fault, table, later, failed, rfl, -⟩
    · simp [none, empty]
    · simp [failed]
  have unreadable : ∀ table later, rest = table :: later →
      ∃ column ∈ table.columns, ¬ Readable (Text.join ", " column.members) := by
    rintro table later rfl
    rcases ending with ⟨-, ⟨⟩⟩ | ⟨fault, _, _, -, same, failed⟩
    cases same
    rcases @source table (by simp [cut]) with ⟨block, known⟩
    exact exists_unreadable known failed
  have readable_iff : (modelsFrom tables).2 = none ↔ ∀ table ∈ tables,
      ∀ column ∈ table.columns, Readable (Text.join ", " column.members) := by
    rw [whole]
    constructor
    · rintro rfl table member
      rcases source member with ⟨block, known⟩
      rw [cut, List.append_nil] at member
      rcases exists_of_mem_left reported member with ⟨report, -, made⟩
      exact (exists_model_iff known).mp ⟨report, made⟩
    · intro readable
      cases rest with
      | nil => rfl
      | cons table later =>
          rcases unreadable table later rfl with ⟨column, member, unread⟩
          exact absurd (readable table (by simp [cut]) column member) unread
  refine ⟨readable_iff, fun plain => readable_iff.mpr fun table member column inside =>
    readable_of_read (Markup.read_of_plain (plain table member column inside)),
    shown, rest, reports, cut, ?_, ?_, whole, unreadable⟩
  · rw [text]
  · refine (List.forall₂_and_left _ _).mpr ⟨fun table member => among member, reported⟩ |>.imp ?_
    rintro table report ⟨member, made⟩
    rcases source member with ⟨block, known⟩
    exact showsTable_of_model known made

set_option maxRecDepth 8000 in
/-- A bracket that starts no tag is shown like any other character. -/
theorem member_with_bracket_is_shown :
    ∃ table,
      Table.parse "CREATE TABLE `t` (`id` INT PRIMARY KEY, `e` ENUM('b','a [1]'))" = .ok table ∧
      table.columns.map (·.members) = [["b", "a [1]"].map String.toList] ∧
      (models [table]).2 = none ∧ ShowsTable table (models [table]).1 := by
  let column : Column :=
    ⟨['e'], some .enumeration, some 0, false, ["b", "a [1]"].map String.toList⟩
  have parsed : Table.parse "CREATE TABLE `t` (`id` INT PRIMARY KEY, `e` ENUM('b','a [1]'))" =
      .ok ⟨['t'], "id", [column]⟩ := Table.parse_eq_ok_of_toOption (by decide)
  have plain : IsPlain "b, a [1]" := by
    have tagless : ∀ tail ∈ "b, a [1]".toList.tails, tail.head? = some '[' →
        Markup.tagContent? tail.tail = none := by decide
    have noBackslash : '\\' ∉ "b, a [1]".toList := by decide
    have uncontrolled : ∀ character ∈ "b, a [1]".toList, Markup.isControl character = false := by
      decide
    refine ⟨fun inside behind => ?_, fun inside => ?_, ?_, uncontrolled⟩
    · exact tagless ('[' :: inside) ((List.mem_tails _ _).mpr behind) rfl
    · exact noBackslash (inside.subset List.mem_cons_self)
    · exact Emoji.nameless_of_no_colon (by decide)
  have shows := report_shows_what_was_read (.cons parsed .nil)
  have all := shows.2.1 (by simpa [column] using plain)
  rcases shows.2.2 with ⟨shown, rest, reports, cut, text, reported, whole, -⟩
  rw [whole.mp all, List.append_nil] at cut
  subst cut
  rcases reported with _ | ⟨shown, ⟨⟩⟩
  refine ⟨_, parsed, rfl, all, ?_⟩
  rw [text]
  simpa using shown

set_option maxRecDepth 8000 in
/-- A member that looks like a closing tag ends the report before its table. -/
theorem member_like_closing_tag_ends_report :
    ∃ table, Table.parse "CREATE TABLE `t` (`id` INT PRIMARY KEY, `e` ENUM('[/b]'))" = .ok table ∧
      models [table] = ([], some (.strayClosingTag "[/b]" 0)) := by
  have parsed : Table.parse "CREATE TABLE `t` (`id` INT PRIMARY KEY, `e` ENUM('[/b]'))" = .ok
      ⟨['t'], "id", [⟨['e'], some .enumeration, some 0, false, ["[/b]"]⟩]⟩ :=
    Table.parse_eq_ok_of_toOption (by decide)
  refine ⟨_, parsed, ?_⟩
  have failed : model ⟨['t'], "id", [⟨['e'], some .enumeration, some 0, false, ["[/b]"]⟩]⟩ =
      .error (.strayClosingTag "[/b]" 0) := by
    rw [model, mapM_modelRow parsed]
    rfl
  rw [models, if_neg (by simp), modelsFrom, failed]

end Report

end SchemaSeed
