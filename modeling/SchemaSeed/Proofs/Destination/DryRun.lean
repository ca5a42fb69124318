import SchemaSeed.Destination.DryRun
import SchemaSeed.Proofs.RowSet.Literals
import SchemaSeed.Proofs.RowSet.Statement
import SchemaSeed.Proofs.Table.Enumeration

/-! The detail of a dry run, line by line.  It joins its lines with newlines, so it comes
apart into these lines again if none of them holds a newline of its own.  None does: in the
characters that are drawn a newline is escaped, names hold none, and where a member of an
enumeration was wrapped its line ends are spaces by the time it is read. -/

namespace SchemaSeed

/-! ## Text without newlines -/

namespace Text

theorem newline_not_mem_collapse (text : Text) : '\n' ∉ text.collapse := by
  intro member
  have same := (squeezed_collapse text).1.eq_space '\n' member (by decide)
  exact absurd same (by decide)

theorem trim_subset (unwanted : Char → Bool) (text : Text) : text.trim unwanted ⊆ text := by
  rw [trim, List.reverse_subset]
  refine List.Subset.trans (List.dropWhile_subset _) (List.reverse_subset.mpr ?_)
  exact List.dropWhile_subset _

theorem newline_not_mem_join {separator : Text} (clean : '\n' ∉ separator) {parts : List Text}
    (each : ∀ part ∈ parts, '\n' ∉ part) : '\n' ∉ join separator parts := by
  intro member
  rcases mem_of_mem_join member with between | ⟨part, among, inside⟩
  · exact clean between
  · exact each part among inside

end Text

namespace Sql

theorem newline_not_mem_name {name : Text}
    (known : ∀ character ∈ name, isNameCharacter character = true) : '\n' ∉ name :=
  fun member => absurd (known '\n' member) (by decide)

end Sql

namespace Literal

theorem newline_not_mem_quote {content : Text} (clean : '\n' ∉ content) :
    '\n' ∉ quote content := by
  simp [quote, clean]

theorem newline_not_mem_escape (character : Char) : '\n' ∉ escape character := by
  unfold escape
  split
  · decide
  · split
    · decide
    · rename_i other
      repeat' split
      all_goals simp [Ne.symm other]

theorem Form.newline_not_mem {literal : Text} (form : Form literal) : '\n' ∉ literal := by
  have numerals : '\n' ∉ Decimal.numerals := by decide
  have signs : '\n' ∉ stamps := by decide
  cases form with
  | number known => exact fun member => numerals (known member)
  | stamp known => exact newline_not_mem_quote fun member => signs (known member)
  | escaped content =>
      apply newline_not_mem_quote
      rw [escapeAll, List.mem_flatMap]
      rintro ⟨character, -, member⟩
      exact newline_not_mem_escape character member
  | filled count =>
      apply newline_not_mem_quote
      intro member
      exact absurd (List.eq_of_mem_replicate member) (by decide)

end Literal

/-! ## What is generated -/

theorem Column.newline_not_mem_bare (item : Text) : '\n' ∉ bare item := by
  intro member
  exact Text.newline_not_mem_collapse item (Text.trim_subset _ _ member)

namespace Table

variable {block : Text} {table : Table} (parsed : parse block = .ok table)

include parsed

theorem newline_not_mem_members {column : Column} (member : column ∈ table.columns)
    (category : column.category = some .enumeration) :
    column.members ≠ [] ∧ ∀ text ∈ column.members, '\n' ∉ text := by
  rcases exists_candidate parsed member with
    ⟨candidates, candidate, declaration, found, among, split, classified⟩
  rcases Sql.exists_definition found among with ⟨definition, -, rfl⟩
  have named : (Column.splitName definition.collapse).1.isSome = true := by rw [split]; rfl
  rcases Column.members_eq_items named classified category with ⟨members, nonempty⟩
  refine ⟨nonempty, fun text present => ?_⟩
  rw [members] at present
  rcases List.mem_map.mp present with ⟨item, -, rfl⟩
  exact Column.newline_not_mem_bare item

theorem newline_not_mem_literal {State : Type u} (generator : Generator State) {column : Column}
    (member : column ∈ table.columns) {state next : State} {literal : Text}
    (generated : generator.generate column state = (.ok (some literal), next)) :
    '\n' ∉ literal := by
  by_cases category : column.category = some .enumeration
  · rcases newline_not_mem_members parsed member category with ⟨nonempty, clean⟩
    rcases generator.generate_enumeration category nonempty state with
      ⟨chosen, among, after, written⟩
    rw [written] at generated
    cases generated
    exact Literal.newline_not_mem_quote (clean chosen among)
  · exact (generator.form_generate category generated).newline_not_mem

theorem newline_not_mem_quotedName {column : Column} (member : column ∈ table.columns) :
    '\n' ∉ column.quotedName := by
  have clean := Sql.newline_not_mem_name ((names_of_parse parsed).2 column member).2
  simp [Column.quotedName, clean]

end Table

/-! ## Lines -/

namespace RowSet

/-- Nothing in the row set holds a newline. -/
structure FreeOfNewlines (rowSet : RowSet) : Prop where
  table : '\n' ∉ rowSet.table
  fields : ∀ field ∈ rowSet.fields, '\n' ∉ field
  literals : ∀ row ∈ rowSet.rows, ∀ literal ∈ row, '\n' ∉ literal

theorem newline_not_mem_group {items : List Text} (clean : ∀ item ∈ items, '\n' ∉ item) :
    '\n' ∉ group items := by
  have comma : '\n' ∉ ",".toList := by decide
  have inside := Text.newline_not_mem_join comma clean
  unfold group
  generalize Text.join "," items = joined at inside
  simp [inside]

theorem FreeOfNewlines.newline_not_mem_statement {rowSet : RowSet} (free : rowSet.FreeOfNewlines) :
    '\n' ∉ rowSet.statement := by
  have comma : '\n' ∉ ",".toList := by decide
  have rows : '\n' ∉ values rowSet.rows := by
    refine Text.newline_not_mem_join comma fun text member => ?_
    rcases List.mem_map.mp member with ⟨row, among, rfl⟩
    exact newline_not_mem_group (free.literals row among)
  have fields := newline_not_mem_group free.fields
  have opening : '\n' ∉ "INSERT INTO ".toList := by decide
  have between : '\n' ∉ " VALUES ".toList := by decide
  have name : '\n' ∉ lead rowSet.table := by
    have quoted : '\n' ∉ Sql.backtick :: rowSet.table ++ [Sql.backtick] := by
      simp [free.table, Sql.backtick]
    have space : '\n' ∉ [' '] := by decide
    unfold lead
    simp only [List.mem_append, opening, quoted, space, or_self, not_false_eq_true]
  unfold statement
  simp only [List.mem_append, name, fields, between, rows, or_self, not_false_eq_true]

end RowSet

theorem Generator.freeOfNewlines_rowSet {State : Type u} (generator : Generator State)
    {block : Text} {table : Table} (parsed : Table.parse block = .ok table) {count : Nat}
    {state after : State}
    {rowSet : RowSet} (generated : generator.rowSet table count state = (.ok rowSet, after)) :
    rowSet.FreeOfNewlines ∧ rowSet.rows.length = count := by
  have among {column : Column} (member : column ∈ table.generated) : column ∈ table.columns :=
    (List.mem_filter.mp member).1
  rcases rowSet_eq_ok_iff.mp generated with ⟨name, fields, fills⟩
  refine ⟨⟨?_, ?_, ?_⟩, fills.length_eq⟩
  · rw [name]
    exact Sql.newline_not_mem_name (Table.names_of_parse parsed).1.2
  · rw [fields]
    intro field member
    rcases List.mem_map.mp member with ⟨column, found, rfl⟩
    exact Table.newline_not_mem_quotedName parsed (among found)
  · intro row member
    exact (fills.forall_mem fun column found _ _ _ written =>
      Table.newline_not_mem_literal parsed generator (among found) written) row member |>.2

namespace DryRun

/-- The lines of a detail: the fields, the rows with their numbers, and the statement. -/
def lines (fields renderings : List Text) (statement : Text) : List Text :=
  ("fields: [" ++ Text.join ", " fields ++ "]") ::
    (renderings.zipIdx 1).map (fun (rendering, number) =>
      "row " ++ Decimal.natural number ++ ": " ++ rendering) ++ [statement]

theorem rowLinesFrom_eq (number : Nat) (rows : List Text) :
    rowLinesFrom number rows = (rows.zipIdx number).map fun (row, place) =>
      "row " ++ Decimal.natural place ++ ": " ++ row := by
  induction rows generalizing number with
  | nil => rfl
  | cons row rest induction => rw [rowLinesFrom, induction, List.zipIdx_cons, List.map_cons]

theorem detail_eq (fields renderings : List Text) (statement : Text) :
    detail (Text.join ", " fields) renderings statement =
      Text.join "\n" (lines fields renderings statement) := by
  rw [detail, rowLinesFrom_eq, lines]

theorem length_lines (fields renderings : List Text) (statement : Text) :
    (lines fields renderings statement).length = renderings.length + 2 := by
  simp [lines]

theorem newline_not_mem_lines {fields renderings : List Text} {statement : Text}
    (fieldsClean : ∀ field ∈ fields, '\n' ∉ field)
    (rowsClean : ∀ rendering ∈ renderings, '\n' ∉ rendering)
    (statementClean : '\n' ∉ statement) :
    ∀ line ∈ lines fields renderings statement, '\n' ∉ line := by
  obtain ⟨opening, closing, comma, word, colon⟩ :
      '\n' ∉ "fields: [".toList ∧ '\n' ∉ "]".toList ∧ '\n' ∉ ", ".toList ∧
        '\n' ∉ "row ".toList ∧ '\n' ∉ ": ".toList := by decide
  have figures : '\n' ∉ Decimal.numerals := by decide
  intro line member
  rw [lines, List.cons_append, List.mem_cons, List.mem_append, List.mem_singleton] at member
  rcases member with rfl | among | rfl
  · have joined := Text.newline_not_mem_join comma fieldsClean
    simp only [List.mem_append, opening, closing, joined, or_self, not_false_eq_true]
  · rcases List.mem_map.mp among with ⟨⟨rendering, number⟩, found, rfl⟩
    have clean := rowsClean rendering (List.fst_mem_of_mem_zipIdx found)
    have digits : '\n' ∉ Decimal.natural number := fun inside =>
      figures (Decimal.natural_subset number inside)
    simp only [List.mem_append, word, colon, digits, clean, or_self, not_false_eq_true]
  · exact statementClean

theorem deliver_eq (batch : Batch) (earlier : Statements) :
    destination.deliver batch earlier =
      match outcome batch with
      | .ok (outcome, statement) => (⟨.ok outcome, []⟩, earlier ++ [statement])
      | .error fault => (⟨.error fault, []⟩, earlier) :=
  rfl

theorem deliver_batch (rowSet : RowSet) (earlier : Statements) :
    let renderings := rowSet.rows.map RowSet.group
    destination.deliver rowSet.batch earlier =
      (⟨.ok ⟨true, Text.join "\n" (lines rowSet.fields renderings rowSet.statement)⟩, []⟩,
        earlier ++ [rowSet.statement]) := by
  intro renderings
  have written : outcome rowSet.batch =
      .ok (⟨true, detail (Text.join ", " rowSet.fields) renderings rowSet.statement⟩,
        rowSet.statement) := by
    rw [outcome, RowSet.statement_batch, RowSet.batch, joinTexts_map_text, RowSet.renderRows_map]
  rw [deliver_eq, written, detail_eq]

/-- What cannot be rendered is refused, and no statement is kept for it. -/
theorem deliver_of_error {batch : Batch} {fault : Fault}
    (refused : batch.statement = .error fault) (earlier : Statements) :
    destination.deliver batch earlier = (⟨.error fault, []⟩, earlier) := by
  rw [deliver_eq, outcome, refused]

theorem statements_of_error {batch : Batch} {earlier : Statements} {fault : Fault}
    (refused : (destination.deliver batch earlier).1.outcome = .error fault) :
    (destination.deliver batch earlier).2 = earlier := by
  rw [deliver_eq] at refused ⊢
  cases written : outcome batch with
  | error cause => rfl
  | ok shown =>
      rw [written] at refused
      cases refused

/-- The detail for the rows of a table that was read is one line for the fields, one for
each row and one for the statement, which is the only one that is added to the list.
Nothing that is generated and no field holds a newline, and rows that cannot be rendered
leave the list as it is. -/
theorem detail_is_line_exact {State : Type u} (generator : Generator State) {block : Text}
    {table : Table} (parsed : Table.parse block = .ok table) {count : Nat} {state after : State}
    {rowSet : RowSet} (generated : generator.rowSet table count state = (.ok rowSet, after))
    (earlier : Statements) :
    ∃ statement renderings detail,
      rowSet.batch.statement = .ok statement ∧
      Batch.renderRows rowSet.batch.rows = .ok renderings ∧
      destination.deliver rowSet.batch earlier =
        (⟨.ok ⟨true, detail⟩, []⟩, earlier ++ [statement]) ∧
      detail.splitOn '\n' = lines rowSet.fields renderings statement ∧
      (detail.splitOn '\n').length = count + 2 ∧
      (∀ row ∈ rowSet.rows, ∀ literal ∈ row, '\n' ∉ literal) ∧
      (∀ field ∈ rowSet.fields, '\n' ∉ field) ∧
      (∀ batch fault, batch.statement = .error fault →
        destination.deliver batch earlier = (⟨.error fault, []⟩, earlier)) ∧
      ∀ batch fault, (destination.deliver batch earlier).1.outcome = .error fault →
        (destination.deliver batch earlier).2 = earlier := by
  rcases generator.freeOfNewlines_rowSet parsed generated with ⟨free, length⟩
  let renderings := rowSet.rows.map RowSet.group
  have clean := newline_not_mem_lines free.fields
    (fun rendering member => by
      rcases List.mem_map.mp member with ⟨row, among, rfl⟩
      exact RowSet.newline_not_mem_group (free.literals row among))
    free.newline_not_mem_statement
  have split : (Text.join "\n" (lines rowSet.fields renderings rowSet.statement)).splitOn '\n' =
      lines rowSet.fields renderings rowSet.statement :=
    List.splitOn_intercalate '\n' clean (List.cons_ne_nil _ _)
  refine ⟨rowSet.statement, renderings, _, rowSet.statement_batch, RowSet.renderRows_map _,
    deliver_batch rowSet earlier, split, ?_, free.literals, free.fields,
    fun _ _ refused => deliver_of_error refused earlier, fun _ _ => statements_of_error⟩
  rw [split, length_lines, List.length_map, length]

set_option maxRecDepth 8000 in
/-- A drawn newline is escaped, and one within a member is a space. -/
theorem detail_of_newlines_is_line_exact :
    let block : Text := "CREATE TABLE `t` (`id` INT PRIMARY KEY, `c` CHAR(1), `e` ENUM('a\nb'))"
    let generator : Generator Script :=
      ⟨⟨1, true, 10, 10, by decide, by decide, by decide⟩, ⟨2024, 2, 29, 13, 45, 7⟩, Script.source⟩
    let table : Table := ⟨"t", "id",
      [⟨"c", some .character, some 1, false, []⟩,
        ⟨"e", some .enumeration, some 0, false, ["a b"]⟩]⟩
    let rowSet : RowSet := ⟨"t", ["`c`", "`e`"], [["\"\\n\"".toList, "\"a b\"".toList]]⟩
    (Table.parse block).toOption = some table ∧
      (generator.rowSet table 1 ⟨#[0], 0⟩).1.toOption = some rowSet ∧
      ∃ statement detail,
        destination.deliver rowSet.batch [] = (⟨.ok ⟨true, detail⟩, []⟩, [statement]) ∧
        (detail.splitOn '\n').length = 3 := by
  intro block generator table rowSet
  have known : (Table.parse block).toOption = some table ∧
      (generator.rowSet table 1 ⟨#[0], 0⟩).1.toOption = some rowSet := by
    decide
  rcases known with ⟨read, written⟩
  refine ⟨read, written, ?_⟩
  rcases generated : generator.rowSet table 1 ⟨#[0], 0⟩ with ⟨result, after⟩
  rw [generated] at written
  cases result with
  | error fault => cases written
  | ok found =>
      cases written
      rcases detail_is_line_exact generator (Table.parse_eq_ok_of_toOption read) generated [] with
        ⟨statement, _, detail, -, -, delivered, -, length, -⟩
      exact ⟨statement, detail, delivered, length⟩

end DryRun

end SchemaSeed
