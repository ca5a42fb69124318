import SchemaSeed.Proofs.Fill.Growth
import SchemaSeed.Proofs.Fill.Indifference
import SchemaSeed.Proofs.RowSet.Draws
import SchemaSeed.Proofs.Table.Reading

/-! What becomes of the columns of a table in a run.  The columns that values can be generated
for are handed over all together or not at all; the others fail their table with an error that
lists them, or are listed in a warning, which outlasts whatever happens to the table
afterwards. -/

namespace SchemaSeed

universe u v

namespace Table

variable (table : Table)

/-- The columns of a table are parted into those that values are generated for and the others,
both in declaration order. -/
structure Partitioned : Prop where
  generated : table.generated.Sublist table.columns
  unsupported : table.unsupported.Sublist table.columns
  all : (table.generated ++ table.unsupported).Perm table.columns
  supported : ∀ column ∈ table.generated, column.category.isSome = true
  others : ∀ column ∈ table.unsupported, column.category = none

theorem partitioned : table.Partitioned where
  generated := List.filter_sublist
  unsupported := List.filter_sublist
  all := List.filter_append_perm _ _
  supported _ member := (List.mem_filter.mp member).2
  others column member := by
    have unsupported := (List.mem_filter.mp member).2
    simpa [Column.isSupported] using unsupported

/-- The warning about the columns that are left out. -/
def omission : Text :=
  "table " ++ table.name ++ ": no generator for column(s) " ++
    Text.join ", " (table.unsupported.map (·.name)) ++ "; left to their database defaults"

/-- What fails a table whose columns must all be supported. -/
def refusal : Fault :=
  .unsupportedColumns table.name (table.unsupported.map (·.name))

/-- The message names the table and lists its unsupported columns, all of them and in order. -/
def Lists (message : Text) : Prop :=
  table.name <:+: message ∧ Text.join ", " (table.unsupported.map (·.name)) <:+: message

theorem lists_omission : table.Lists table.omission := by
  unfold omission
  refine ⟨?_, List.infix_append _ _ _⟩
  simp only [List.append_assoc]
  exact List.infix_append' _ _ _

theorem lists_refusal : table.Lists table.refusal.message := by
  have message : table.refusal.message = "Table '" ++ table.name ++
      "' has columns of unsupported type: " ++
        Text.join ", " (table.unsupported.map (·.name)) := rfl
  rw [message]
  refine ⟨?_, (List.suffix_append _ _).isInfix⟩
  simp only [List.append_assoc]
  exact List.infix_append' _ _ _

end Table

namespace Generator

variable {Random : Type v} {generator : Generator Random} {columns : List Column}
  {before after : Random}

/-- Every literal of a row was generated for the column at its place. -/
theorem FillsRow.forall₂ {literals : List Text}
    (fills : generator.FillsRow columns before literals after) :
    List.Forall₂ (fun column literal => ∃ state next,
      generator.generate column state = (.ok (some literal), next)) columns literals := by
  induction fills with
  | done => exact .nil
  | filled generated _ induction => exact .cons ⟨_, _, generated⟩ induction

theorem FillsRows.exists_of_mem {count : Nat} {written : List (List Text)}
    (fills : generator.FillsRows columns count before written after) {literals : List Text}
    (member : literals ∈ written) :
    ∃ state next, generator.FillsRow columns state literals next := by
  induction fills with
  | done => cases member
  | filled filled _ induction =>
      rcases List.mem_cons.mp member with rfl | later
      · exact ⟨_, _, filled⟩
      · exact induction later

end Generator

namespace Filler

open State

variable {Sink : Type u} {Random : Type v} (filler : Filler Sink Random)

/-- The row set has a field for every column of the table that values are generated for, and so
many rows, each with a literal that was generated for the column of its field. -/
structure Covers (generator : Generator Random) (count : Nat) (table : Table) (rowSet : RowSet) :
    Prop where
  name : rowSet.table = table.name
  fields : rowSet.fields = table.generated.map (·.quotedName)
  count : rowSet.rows.length = count
  width : ∀ row ∈ rowSet.rows, row.length = rowSet.fields.length
  literals : ∀ row ∈ rowSet.rows, List.Forall₂ (fun column literal => ∃ before after,
    generator.generate column before = (.ok (some literal), after)) table.generated row

theorem covers_of_rowSet {generator : Generator Random} {count : Nat} {table : Table}
    {rowSet : RowSet} {before after : Random}
    (generated : generator.rowSet table count before = (.ok rowSet, after)) :
    Covers generator count table rowSet := by
  rcases Generator.rowSet_eq_ok_iff.mp generated with ⟨name, fields, fills⟩
  refine ⟨name, fields, fills.length_eq, ?_, ?_⟩
  · intro row member
    rcases fills.exists_of_mem member with ⟨_, _, filled⟩
    rw [fields, List.length_map, filled.length_eq]
  · intro row member
    rcases fills.exists_of_mem member with ⟨_, _, filled⟩
    exact filled.forall₂

/-- What a run makes of the columns of a table, from the state in which it takes the table up to
the one in which it leaves it. -/
structure Accounts (table : Table) (result : TableResult) (taken left : State Sink Random) :
    Prop where
  /-- The table is not handed over, and fails, or a row set that covers it is. -/
  handed : ∃ own, left.delivered = taken.delivered ++ own ∧
    left.sink = filler.destination.sinkAfter own taken.sink ∧
    (own = [] ∧ result.success = false ∨
      ∃ rowSet, own = [rowSet] ∧ Covers filler.generator filler.policy.rowCount table rowSet)
  refused : filler.strict = true → table.unsupported ≠ [] →
    left.delivered = taken.delivered ∧ left.sink = taken.sink ∧ result.table = table.name ∧
      result.success = false ∧ result.error = some table.refusal.message
  warned : filler.strict = false → table.unsupported ≠ [] →
    Tells Log.Level.warning table.omission taken left

theorem checkColumns_of_lenient {table : Table} (lenient : filler.strict = false)
    (incomplete : table.unsupported ≠ []) (state : State Sink Random) :
    filler.checkColumns table state = (.ok (), state.warn table.omission) := by
  unfold Table.omission
  simp only [checkColumns]
  cases names : table.unsupported.map (·.name) with
  | nil => exact absurd (List.map_eq_nil_iff.mp names) incomplete
  | cons name rest => simp only [lenient, Bool.false_eq_true, ↓reduceIte]

/-- Columns that are left out are told about before any value is generated. -/
theorem prepare_tells {block : Text} {table : Table} (read : Table.parse block = .ok table)
    (lenient : filler.strict = false) (incomplete : table.unsupported ≠ [])
    (state : State Sink Random) :
    Tells Log.Level.warning table.omission state (filler.prepare block state).2 := by
  rw [Table.parse] at read
  cases opened : Reading.ofBlock block with
  | error fault =>
      rw [opened] at read
      cases read
  | ok reading =>
      rw [opened] at read
      cases read
      have warned := filler.checkColumns_of_lenient lenient incomplete (state.log reading.record)
      simp only [prepare, opened, warned]
      exact (tells_say _ _ _).within (grows_log _ _)
        ⟨List.prefix_rfl, List.prefix_rfl, List.prefix_rfl⟩

/-- Filling a table hands over the row set that was prepared, if there is one; otherwise it
reports the fault. -/
theorem fillTable_hands_over {number : Nat} {block : Text} {state next : State Sink Random}
    {name : Option Text} {made : Except Fault RowSet} {random : Random} {result : TableResult}
    (prepared : filler.preparation block state.random = (⟨name, made⟩, random))
    (filled : filler.fillTable number block state = (.ok result, next)) :
    next.delivered = state.delivered ++ made.toOption.toList ∧
      next.sink = filler.destination.sinkAfter made.toOption.toList state.sink ∧
      ∀ fault, made = .error fault → Reports filler.policy ⟨number, name, .error fault⟩ result := by
  cases made with
  | error fault =>
      rcases filler.fillTable_of_unprepared number block state prepared with
        ⟨_, _, filledSo, reports, standing⟩
      rw [filled] at filledSo
      cases filledSo
      rcases fields_of_standing standing with ⟨sink, -, delivered⟩
      refine ⟨delivered.trans (List.append_nil _).symm, sink, ?_⟩
      rintro _ ⟨⟩
      exact reports
  | ok rowSet =>
      rcases filler.fillTable_of_ready number block state prepared with
        ⟨_, _, filledSo, -, standing⟩
      rw [filled] at filledSo
      cases filledSo
      rcases fields_of_standing standing with ⟨sink, -, delivered⟩
      refine ⟨delivered, sink, ?_⟩
      rintro _ ⟨⟩

/-- Filling a table accounts for its columns. -/
theorem fillTable_accounts {number : Nat} {block : Text} {table : Table}
    (read : Table.parse block = .ok table) {state next : State Sink Random}
    {result : TableResult}
    (filled : filler.fillTable number block state = (.ok result, next)) :
    filler.Accounts table result state next := by
  have warned : filler.strict = false → table.unsupported ≠ [] →
      Tells Log.Level.warning table.omission state next := by
    intro lenient incomplete
    have behind := filler.prepare_grows_fillTable number block state
    rw [filled] at behind
    exact (filler.prepare_tells read lenient incomplete _).within (grows_begun number state) behind
  by_cases refuses : filler.strict = true ∧ table.unsupported ≠ []
  · have prepared : filler.preparation block state.random =
        (⟨some table.name, .error table.refusal⟩, state.random) := by
      simp only [preparation, read, if_pos refuses]
      rfl
    rcases filler.fillTable_hands_over prepared filled with ⟨delivered, sink, reports⟩
    have reports := reports table.refusal rfl
    refine ⟨⟨[], delivered, sink, .inl ⟨rfl, reports.success⟩⟩, fun _ _ => ?_, warned⟩
    exact ⟨delivered.trans (List.append_nil _), sink, reports.table, reports.success,
      reports.error⟩
  · rcases generated : filler.generator.rowSet table filler.policy.rowCount state.random with
      ⟨made, random⟩
    have prepared : filler.preparation block state.random = (⟨some table.name, made⟩, random) := by
      simp only [preparation, read, if_neg refuses, generated]
    rcases filler.fillTable_hands_over prepared filled with ⟨delivered, sink, reports⟩
    refine ⟨⟨_, delivered, sink, ?_⟩, ?_, warned⟩
    · cases made with
      | error fault => exact .inl ⟨rfl, (reports fault rfl).success⟩
      | ok rowSet => exact .inr ⟨rowSet, rfl, covers_of_rowSet generated⟩
    · exact fun strict incomplete => absurd ⟨strict, incomplete⟩ refuses

/-- No column of a table that was read is left out in silence.  Its columns are parted into those
that are generated and the unsupported ones; the row set that is handed over, if there is one,
covers the generated columns; unsupported columns fail the table with an error that lists them
all, and keep it from the destination, or are listed in a warning that stays to the end of the
run. -/
theorem no_column_is_left_out_silently (document : Text) (state : State Sink Random)
    {results : List TableResult} {final : State Sink Random}
    (ran : filler.run document state = (.ok results, final)) {before after : List Text}
    {block : Text} {table : Table} (found : Sql.segment document = before ++ block :: after)
    (read : Table.parse block = .ok table) :
    table.Partitioned ∧ table.Lists table.refusal.message ∧ table.Lists table.omission ∧
      (filler.strict = false → table.unsupported ≠ [] → table.omission ∈ final.diagnostics) ∧
      ∃ front result back taken left,
        results = front ++ result :: back ∧ front.length = before.length ∧
        filler.fillTables 1 before (filler.opened document state) = (.ok front, taken) ∧
        filler.fillTable (1 + before.length) block taken = (.ok result, left) ∧
        state.Grows taken ∧ filler.Accounts table result taken left ∧ left.Grows final := by
  rw [run_eq] at ran
  rcases filled : filler.fillTables 1 (Sql.segment document) (filler.opened document state) with
    ⟨ended, last⟩
  rw [filled] at ran
  cases ended with
  | error fault => cases ran
  | ok all =>
      cases ran
      rw [found] at filled
      rcases exists_of_fillTables_append filled with
        ⟨front, result, back, taken, left, rfl, length, first, own, later⟩
      have opened := filler.grows_opened document state
      have grown := filler.grows_fillTables 1 before (filler.opened document state)
      have behind := filler.grows_fillTables (1 + before.length + 1) after left
      rw [first] at grown
      rw [later] at behind
      have finished : left.Grows (last.log (summarize (front ++ result :: back))) :=
        behind.trans (grows_log _ _)
      have accounts := filler.fillTable_accounts read own
      refine ⟨table.partitioned, table.lists_refusal, table.lists_omission, ?_, front, result, back,
        taken, left, rfl, length, first, own, opened.trans grown, accounts, finished⟩
      intro lenient incomplete
      rcases (accounts.warned lenient incomplete).diagnostics with ⟨told, diagnostics, member⟩
      apply finished.diagnostics.subset
      rw [diagnostics]
      exact List.mem_append_right _ member

set_option maxRecDepth 4000 in
/-- A table with a polygon.  Taken strictly it fails with an error that lists the polygon;
otherwise a warning does. -/
theorem polygon_is_listed :
    let filler (strict : Bool) : Filler DryRun.Statements Script :=
      ⟨⟨Policy.default, ⟨2024, 2, 29, 13, 45, 7⟩, Script.source⟩, DryRun.destination, strict⟩
    let document : Text :=
      "CREATE TABLE `t` (`id` INT, `p` POLYGON, `c` CHAR(2), PRIMARY KEY (`id`));"
    let state : State DryRun.Statements Script := .start [] ⟨#[5, 7], 0⟩ .still
    (∃ result later final, (filler true).run document state = (.ok (result :: later), final) ∧
      result.error = some "Table 't' has columns of unsupported type: p".toList) ∧
    ∃ results final, (filler false).run document state = (.ok results, final) ∧
      "table t: no generator for column(s) p; left to their database defaults".toList ∈
        final.diagnostics := by
  intro filler document state
  let table : Table := ⟨"t", "id", [⟨"p", none, some 0, false, []⟩,
    ⟨"c", some .character, some 2, false, []⟩]⟩
  have blocks : Sql.segment document = [] ++ document :: [] := by decide
  have read : Table.parse document = .ok table := Table.parse_eq_ok_of_toOption (by decide)
  have incomplete : table.unsupported ≠ [] := by decide
  have refusal : table.refusal.message =
      "Table 't' has columns of unsupported type: p".toList := by decide
  have omission : table.omission =
      "table t: no generator for column(s) p; left to their database defaults".toList := by decide
  rw [← refusal, ← omission]
  constructor
  · rcases (filler true).run_of_quiet document state (DryRun.neverEnds.answers _ _) with
      ⟨results, final, ran, -, -⟩
    rcases (filler true).no_column_is_left_out_silently document state ran blocks read with
      ⟨-, -, -, -, front, result, back, taken, left, rfl, length, -, -, -, accounts, -⟩
    rcases accounts.refused rfl incomplete with ⟨-, -, -, -, error⟩
    cases List.length_eq_zero_iff.mp length
    exact ⟨result, back, final, ran, error⟩
  · rcases (filler false).run_of_quiet document state (DryRun.neverEnds.answers _ _) with
      ⟨results, final, ran, -, -⟩
    rcases (filler false).no_column_is_left_out_silently document state ran blocks read with
      ⟨-, -, -, told, -⟩
    exact ⟨results, final, ran, told rfl incomplete⟩

end Filler

end SchemaSeed
