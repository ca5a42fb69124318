import SchemaSeed.Proofs.RowSet.Literals
import SchemaSeed.Proofs.RowSet.Statement
import SchemaSeed.Proofs.Table.Reading
import SchemaSeed.Random.Scripted

/-! Reading an INSERT statement back.  The scans that take declarations apart also find the
names and the rows of a statement again: each literal is closed in itself, each row is a
group, and the groups follow the keyword VALUES. -/

namespace SchemaSeed

namespace RowSet

/-! ## The reader -/

/-- The items of the first group. -/
def items? (text : Text) : Option (List Text) :=
  match Sql.findGroup text 0 with
  | .ok (some group) =>
      (Sql.splitTop "," (text.slice (group.opening + 1) group.closing)).toOption
  | _ => none

/-- The row set that a statement inserts. -/
def read? (statement : Text) : Option RowSet :=
  match Sql.findGroup statement 0 with
  | .ok (some group) => do
      let table ← Sql.firstName? (statement.take group.opening)
      let fields ← items? statement
      let values ← Text.after? ") VALUES " (statement.drop group.closing)
      let groups ← (Sql.splitTop "," values).toOption
      let rows ← groups.mapM items?
      pure ⟨table, fields, rows⟩
  | _ => none

/-! ## Groups of closed items -/

theorem group_append (items : List Text) (rest : Text) :
    group items ++ rest = '(' :: Text.join "," items ++ ')' :: rest := by
  simp [group]

theorem findGroup_group {front : Text} (closed : Sql.Closed front) {items : List Text}
    (inside : ∀ item ∈ items, Sql.Closed item) (rest : Text) :
    Sql.findGroup (front ++ (group items ++ rest)) 0 =
      .ok (some ⟨front.length, front.length + 1 + (Text.join "," items).length⟩) := by
  rcases Sql.steady_join inside 1 with ⟨steady, returns⟩
  rw [group_append, Sql.findGroup_append closed steady returns]

/-- Items in parentheses behind closed text are found again. -/
theorem items?_append {front : Text} (closed : Sql.Closed front) {items : List Text}
    (nonempty : items ≠ []) (inside : ∀ item ∈ items, Sql.Closed item) (rest : Text) :
    items? (front ++ (group items ++ rest)) = some items := by
  rcases List.exists_cons_of_ne_nil nonempty with ⟨first, others, rfl⟩
  have split := Sql.splitTop_join_of_unbroken fun item member =>
    ⟨(inside item member).unbroken, (inside item member).returns 0⟩
  have slice := Sql.slice_group front (Text.join "," (first :: others)) rest
  rw [← group_append] at slice
  simp only [items?, findGroup_group closed inside, slice, split]
  rfl

theorem items?_group {row : List Text} (nonempty : row ≠ [])
    (inside : ∀ literal ∈ row, Sql.Closed literal) : items? (group row) = some row := by
  have found := items?_append .nil nonempty inside []
  rwa [List.nil_append, List.append_nil] at found

theorem mapM_items? {rows : List (List Text)}
    (inside : ∀ row ∈ rows, row ≠ [] ∧ ∀ literal ∈ row, Sql.Closed literal) :
    (rows.map group).mapM items? = some rows := by
  induction rows with
  | nil => rfl
  | cons row rows induction =>
      rw [List.forall_mem_cons] at inside
      rcases inside with ⟨⟨nonempty, closed⟩, later⟩
      rw [List.map_cons, List.mapM_cons, items?_group nonempty closed, induction later]
      rfl

theorem splitTop_values {rows : List (List Text)} (nonempty : rows ≠ [])
    (inside : ∀ row ∈ rows, ∀ literal ∈ row, Sql.Closed literal) :
    Sql.splitTop "," (values rows) = .ok (rows.map group) := by
  have whole : ∀ part ∈ rows.map group,
      Sql.Unbroken "," Sql.Scan.start part ∧ Sql.Scan.start.run part = Sql.Scan.start := by
    intro part member
    rcases List.mem_map.mp member with ⟨row, among, rfl⟩
    rcases Sql.steady_join (inside row among) 1 with ⟨steady, returns⟩
    exact Sql.unbroken_group steady returns
  rcases List.exists_cons_of_ne_nil nonempty with ⟨first, others, rfl⟩
  exact Sql.splitTop_join_of_unbroken whole

/-! ## The head of a statement -/

section Names

variable {name : Text} (nonempty : name ≠ [])
  (known : ∀ character ∈ name, Sql.isNameCharacter character = true)

include known in
theorem closed_name : Sql.Closed (Sql.backtick :: name ++ [Sql.backtick]) :=
  Sql.closed_quoted rfl (.of_plain fun character member =>
    ⟨Sql.ne_of_isNameCharacter (known character member) (by decide),
      Sql.ne_of_isNameCharacter (known character member) (by decide)⟩)

include known in
theorem closed_lead : Sql.Closed (lead name) := by
  have words : Sql.Closed "INSERT INTO ".toList := Sql.closed_of_plain (by decide)
  have space : Sql.Closed [' '] := Sql.closed_of_plain (by decide)
  exact (words.append (closed_name known)).append space

include nonempty known in
theorem firstName?_lead : Sql.firstName? (lead name) = some name := by
  have found := @Sql.firstName?_append "INSERT INTO ".toList _ (by decide) nonempty known [' ']
  unfold lead
  rw [List.append_assoc, List.append_assoc]
  exact found

end Names

/-- A statement whose names can be quoted and whose literals are closed in themselves is read
back as the row set that it was written for. -/
theorem read?_statement {rowSet : RowSet} (named : rowSet.table ≠ [])
    (known : ∀ character ∈ rowSet.table, Sql.isNameCharacter character = true)
    (someField : rowSet.fields ≠ []) (fields : ∀ field ∈ rowSet.fields, Sql.Closed field)
    (someRow : rowSet.rows ≠ [])
    (rows : ∀ row ∈ rowSet.rows, row ≠ [] ∧ ∀ literal ∈ row, Sql.Closed literal) :
    read? rowSet.statement = some rowSet := by
  have closed := closed_lead known
  have groups := splitTop_values someRow fun row member => (rows row member).2
  have name := firstName?_lead named known
  unfold statement
  generalize lead rowSet.table = front at closed name ⊢
  generalize values rowSet.rows = written at groups ⊢
  have after : Text.after? ") VALUES " (')' :: (" VALUES ".toList ++ written)) = some written :=
    Text.after?_eq_some_iff.mpr rfl
  have dropped : (front ++ (group rowSet.fields ++ (" VALUES ".toList ++ written))).drop
      (front.length + 1 + (Text.join "," rowSet.fields).length) =
        ')' :: (" VALUES ".toList ++ written) := by
    rw [group_append, Nat.add_assoc, ← List.drop_drop, List.drop_left, Nat.add_comm,
      List.cons_append, List.drop_succ_cons, List.drop_left]
  simp only [read?, findGroup_group closed fields, List.take_left, name, dropped, after, groups,
    items?_append closed someField fields, Except.toOption, Option.bind_eq_bind, Option.bind_some,
    mapM_items? rows]
  rfl

end RowSet

/-! ## Generated rows -/

namespace Generator

variable {State : Type u} (generator : Generator State)

/-- The statement of the rows that were generated for a table decodes to exactly these rows:
as many as were asked for, each with one literal for every field, and each literal as it
was generated. -/
theorem rowSet_reads_back {block : Text} {table : Table} (parsed : Table.parse block = .ok table)
    (nonempty : table.generated ≠ [])
    (others : ∀ column ∈ table.columns, column.category ≠ some .enumeration)
    {count : Nat} (positive : 0 < count) {state after : State} {rowSet : RowSet}
    (generated : generator.rowSet table count state = (.ok rowSet, after)) :
    ∃ statement, rowSet.batch.statement = .ok statement ∧
      RowSet.read? statement = some rowSet ∧
      rowSet.table = table.name ∧ rowSet.fields = table.generated.map (·.quotedName) ∧
      rowSet.rows.length = count ∧ (∀ row ∈ rowSet.rows, row.length = rowSet.fields.length) ∧
      generator.FillsRows table.generated count state rowSet.rows after := by
  rcases Table.names_of_parse parsed with ⟨⟨named, known⟩, columnNames⟩
  have among {column : Column} (member : column ∈ table.generated) : column ∈ table.columns :=
    (List.mem_filter.mp member).1
  have supported : ∀ column ∈ table.generated, column.isSupported = true :=
    fun column member => (List.mem_filter.mp member).2
  simp only [Generator.rowSet] at generated
  rcases drawn : generator.rows table.generated count state with ⟨result, last⟩
  rw [drawn] at generated
  cases result with
  | error fault => cases generated
  | ok rows =>
      cases generated
      have fills := generator.fillsRows_of_rows supported drawn
      have closed := fills.closed fun column member => others column (among member)
      have fields : ∀ field ∈ table.generated.map (·.quotedName), Sql.Closed field := by
        intro field member
        rcases List.mem_map.mp member with ⟨column, found, rfl⟩
        exact RowSet.closed_name (columnNames column (among found)).2
      have someRow : rows ≠ [] := by
        intro none
        have length := fills.length_eq
        rw [none, List.length_nil] at length
        omega
      have someLiteral : ∀ row ∈ rows, row ≠ [] := by
        intro row member none
        have length := (closed row member).1
        rw [none, List.length_nil] at length
        exact nonempty (List.length_eq_zero_iff.mp length.symm)
      refine ⟨_, RowSet.statement_batch _, ?_, rfl, rfl, fills.length_eq, ?_, fills⟩
      · exact RowSet.read?_statement named known (by simpa using nonempty) fields someRow
          fun row member => ⟨someLiteral row member, (closed row member).2⟩
      · intro row member
        rw [(closed row member).1, List.length_map]

/-- Drawn characters that look like quotes, separators and parentheses. -/
theorem rowSet_of_quotes_reads_back :
    let block : Text :=
      "CREATE TABLE `t` (`id` INT, `c` CHAR(6), `n` DECIMAL(5), PRIMARY KEY (`id`))"
    let generator : Generator Script :=
      ⟨⟨1, true, 34, 92, by decide, by decide, by decide⟩, ⟨2024, 2, 29, 13, 45, 7⟩, Script.source⟩
    let table : Table := ⟨"t", "id",
      [⟨"c", some .character, some 6, false, []⟩, ⟨"n", some .decimal, some 5, false, []⟩]⟩
    let rowSet : RowSet :=
      ⟨"t", ["`c`", "`n`"], [["\"\\\"\\',()\\\\\"".toList, "\"0.5\"".toList]]⟩
    (Table.parse block).toOption = some table ∧
      (generator.rowSet table 1 ⟨#[0, 5, 10, 6, 7, 58], 0⟩).1.toOption = some rowSet ∧
      ∃ statement, rowSet.batch.statement = .ok statement ∧
        RowSet.read? statement = some rowSet := by
  intro block generator table rowSet
  have known : (Table.parse block).toOption = some table ∧
      (generator.rowSet table 1 ⟨#[0, 5, 10, 6, 7, 58], 0⟩).1.toOption = some rowSet := by
    decide +kernel
  rcases known with ⟨read, written⟩
  have parsed := Table.parse_eq_ok_of_toOption read
  refine ⟨read, written, ?_⟩
  rcases generated : generator.rowSet table 1 ⟨#[0, 5, 10, 6, 7, 58], 0⟩ with ⟨result, after⟩
  rw [generated] at written
  cases result with
  | error fault => cases written
  | ok found =>
      cases written
      rcases generator.rowSet_reads_back parsed (by decide) (by decide) (by decide) generated with
        ⟨statement, rendered, read, -⟩
      exact ⟨statement, rendered, read⟩

end Generator

end SchemaSeed
