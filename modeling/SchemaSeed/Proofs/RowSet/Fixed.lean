import SchemaSeed.Proofs.Literal.Fillable
import SchemaSeed.Proofs.RowSet.Draws

/-! Row sets in fixed mode.  Only floating-point numbers and enumerations are drawn there; all
other columns are given one literal in every row, whatever the random source would answer, and
the source is not asked for them. -/

namespace SchemaSeed

open RandomSource

/-- Columns whose literals are drawn in either mode. -/
def Column.isDrawn (column : Column) : Bool :=
  match column.category with
  | some .float32 | some .float64 | some .enumeration => true
  | _ => false

namespace Policy

variable {policy : Policy} (fixed : policy.randomized = false)

include fixed

theorem calls_of_fixed {column : Column} (undrawn : column.isDrawn = false) :
    policy.calls column = [] := by
  have nothing (calls : List Call) : policy.whenRandom calls = [] := by
    rw [whenRandom, fixed]
    rfl
  cases known : column.category with
  | none => simp only [calls, known]
  | some category =>
      simp only [Column.isDrawn, known] at undrawn
      cases category <;> simp only [calls, known, rangeCalls, nothing] <;> cases undrawn

/-- In fixed mode a row takes the calls of the columns that are drawn. -/
theorem rowCalls_of_fixed (columns : List Column) :
    policy.rowCalls columns = policy.rowCalls (columns.filter (·.isDrawn)) := by
  induction columns with
  | nil => rfl
  | cons column rest induction =>
      rw [rowCalls, List.flatMap_cons, ← rowCalls, induction]
      cases drawn : column.isDrawn with
      | true => rw [List.filter_cons_of_pos drawn, rowCalls, rowCalls, List.flatMap_cons]
      | false =>
          rw [List.filter_cons_of_neg (by rw [drawn]; decide), calls_of_fixed fixed drawn]
          rfl

end Policy

namespace Generator

open Literal

variable {State : Type u} {OtherState : Type v}

/-! ## One literal -/

section Handlers

variable {generator : Generator State} (fixed : generator.policy.randomized = false)

include fixed

theorem integer_of_fixed (range : IntegerRange) (state : State) :
    generator.integer range state = (Decimal.integer range.greatest, state) := by
  simp only [integer, fixed, Bool.false_eq_true, if_false]

theorem bigInteger_of_fixed (state : State) :
    generator.bigInteger state = (bigFixed, state) := by
  simp only [bigInteger, fixed, Bool.false_eq_true, if_false]

theorem decimal_of_fixed (length : Nat) (state : State) :
    generator.decimal length state =
      ((copies (decimalWidth length) '9').map fun whole => quote (whole ++ ".50"), state) := by
  simp only [decimal, fixed, Bool.false_eq_true, if_false]

end Handlers

section Fixed

variable {generator : Generator State} {other : Generator OtherState}
  (fixed : generator.policy.randomized = false) (otherFixed : other.policy.randomized = false)
  (instant : generator.instant = other.instant)

include fixed otherFixed instant

/-- The literal of a column that is not drawn does not depend on the source, which it leaves
alone. -/
theorem generate_of_fixed {column : Column} (undrawn : column.isDrawn = false) (state : State)
    (otherState : OtherState) :
    (generator.generate column state).1 = (other.generate column otherState).1 ∧
      (generator.generate column state).2 = state := by
  cases known : column.category with
  | none =>
      simp only [generate, known, and_self]
  | some category =>
      simp only [Column.isDrawn, known] at undrawn
      cases category <;>
        simp only [generate, known, literal, character_of_fixed fixed,
          character_of_fixed otherFixed, integer_of_fixed fixed, integer_of_fixed otherFixed,
          bigInteger_of_fixed fixed, bigInteger_of_fixed otherFixed, decimal_of_fixed fixed,
          decimal_of_fixed otherFixed, instant, and_self]
      all_goals cases undrawn

theorem eq_of_generate_of_fixed {column : Column} (undrawn : column.isDrawn = false)
    {state after : State} {otherState otherAfter : OtherState} {literal otherLiteral : Text}
    (generated : generator.generate column state = (.ok (some literal), after))
    (otherGenerated : other.generate column otherState = (.ok (some otherLiteral), otherAfter)) :
    literal = otherLiteral := by
  have same := (generate_of_fixed fixed otherFixed instant undrawn state otherState).1
  rw [generated, otherGenerated] at same
  cases same
  rfl

/-- Whether there is a literal for a column does not depend on the source either. -/
theorem exists_generated_of_fixed {column : Column} {state after : State} {literal : Text}
    (generated : generator.generate column state = (.ok (some literal), after))
    (otherState : OtherState) :
    ∃ otherLiteral otherAfter,
      other.generate column otherState = (.ok (some otherLiteral), otherAfter) := by
  cases drawn : column.isDrawn with
  | false =>
      have same := (generate_of_fixed fixed otherFixed instant drawn state otherState).1
      rw [generated] at same
      exact ⟨literal, _, Prod.ext same.symm rfl⟩
  | true =>
      cases known : column.category with
      | none => simp only [Column.isDrawn, known, Bool.false_eq_true] at drawn
      | some category =>
          have choosable := (grants_of_generate generated).choosable
          have written := (exists_generated_iff known state).mp ⟨literal, after, generated⟩
          refine (exists_generated_iff known otherState).mpr ?_
          simp only [Column.isDrawn, known] at drawn
          cases category
          case float32 => exact ⟨_, _, rfl⟩
          case float64 =>
            exact (exists_float64_iff column otherState).mpr
              ((exists_float64_iff column state).mp written)
          case enumeration =>
            rcases List.exists_cons_of_ne_nil (choosable known) with ⟨first, rest, members⟩
            rw [Generator.literal, enumeration, members]
            exact ⟨_, _, rfl⟩
          all_goals cases drawn

/-! ## Rows -/

theorem FillsRow.exists_of_fixed {columns : List Column} {before after : State}
    {literals : List Text} (fills : generator.FillsRow columns before literals after)
    (otherBefore : OtherState) :
    ∃ otherLiterals otherAfter, other.FillsRow columns otherBefore otherLiterals otherAfter := by
  induction fills generalizing otherBefore with
  | done => exact ⟨[], otherBefore, .done⟩
  | filled generated _ induction =>
      rcases exists_generated_of_fixed fixed otherFixed instant generated otherBefore with
        ⟨literal, between, otherGenerated⟩
      rcases induction between with ⟨literals, after, later⟩
      exact ⟨_, _, .filled otherGenerated later⟩

theorem FillsRows.exists_of_fixed {columns : List Column} {count : Nat} {before after : State}
    {written : List (List Text)} (fills : generator.FillsRows columns count before written after)
    (otherBefore : OtherState) :
    ∃ otherWritten otherAfter,
      other.FillsRows columns count otherBefore otherWritten otherAfter := by
  induction fills generalizing otherBefore with
  | done => exact ⟨[], otherBefore, .done⟩
  | filled filled _ induction =>
      rcases filled.exists_of_fixed fixed otherFixed instant otherBefore with
        ⟨literals, between, otherFilled⟩
      rcases induction between with ⟨rows, after, later⟩
      exact ⟨_, _, .filled otherFilled later⟩

/-- A column that is not drawn has one literal in all rows of both row sets. -/
theorem exists_common_cell {table : Table} {count : Nat} {state after : State}
    {otherState otherAfter : OtherState} {rowSet otherSet : RowSet}
    (generated : generator.rowSet table count state = (.ok rowSet, after))
    (otherGenerated : other.rowSet table count otherState = (.ok otherSet, otherAfter))
    {place : Nat} {column : Column} (found : table.generated[place]? = some column)
    (undrawn : column.isDrawn = false) :
    ∃ literal, ∀ row < count, rowSet.cell? row place = some literal ∧
      otherSet.cell? row place = some literal := by
  cases count with
  | zero => exact ⟨[], by simp⟩
  | succ count =>
      rcases exists_cell generated (Nat.succ_pos count) found with ⟨literal, _, -, written⟩
      -- Every literal of the column is the one that is generated for the first row.
      refine ⟨literal, fun row within => ?_⟩
      rcases exists_cell generated within found with ⟨own, _, cell, ownWritten⟩
      rcases exists_cell otherGenerated within found with ⟨others, _, otherCell, othersWritten⟩
      rw [cell, otherCell, eq_of_generate_of_fixed fixed fixed rfl undrawn ownWritten written,
        ← eq_of_generate_of_fixed fixed otherFixed instant undrawn written othersWritten]
      exact ⟨rfl, rfl⟩

end Fixed

/-- In fixed mode, where one generator gives a row set so does any other for the same instant,
whatever their sources and the states of these.  A column that is neither a floating-point number
nor an enumeration has one literal in all rows of both row sets.  The source is not called for
such a column: the calls that it receives are those of the other columns. -/
theorem fixed_rows_ignore_the_source {generator : Generator State} {other : Generator OtherState}
    (fixed : generator.policy.randomized = false) (otherFixed : other.policy.randomized = false)
    (instant : generator.instant = other.instant) {table : Table} {count : Nat}
    {state after : State} {rowSet : RowSet}
    (generated : generator.rowSet table count state = (.ok rowSet, after))
    (otherState : OtherState) :
    (∃ otherSet otherAfter, other.rowSet table count otherState = (.ok otherSet, otherAfter) ∧
      ∀ place column, table.generated[place]? = some column → column.isDrawn = false →
        ∃ literal, ∀ row < count, rowSet.cell? row place = some literal ∧
          otherSet.cell? row place = some literal) ∧
      (∀ column, column.isDrawn = false → ∀ state log,
        generator.traced.generate column (state, log) =
          ((generator.generate column state).1, state, log)) ∧
      ∀ log, generator.traced.rowSet table count (state, log) =
        (.ok rowSet, after,
          (generator.policy.rowsCalls (table.generated.filter (·.isDrawn)) count).reverse ++
            log) := by
  have tracedFixed : generator.traced.policy.randomized = false := fixed
  refine ⟨?_, ?_, ?_⟩
  · rcases rowSet_eq_ok_iff.mp generated with ⟨-, -, fills⟩
    rcases fills.exists_of_fixed fixed otherFixed instant otherState with
      ⟨written, otherAfter, otherFills⟩
    have otherGenerated : other.rowSet table count otherState =
        (.ok ⟨table.name, table.generated.map (·.quotedName), written⟩, otherAfter) :=
      rowSet_eq_ok_iff.mpr ⟨rfl, rfl, otherFills⟩
    exact ⟨_, otherAfter, otherGenerated, fun place column found undrawn =>
      exists_common_cell fixed otherFixed instant generated otherGenerated found undrawn⟩
  · intro column undrawn state log
    rcases generate_of_fixed tracedFixed fixed rfl undrawn (state, log) state with ⟨same, left⟩
    exact Prod.ext same left
  · intro log
    have calls : generator.policy.rowsCalls table.generated count =
        generator.policy.rowsCalls (table.generated.filter (·.isDrawn)) count := by
      rw [Policy.rowsCalls, Policy.rowCalls_of_fixed fixed, Policy.rowsCalls]
    rw [← calls]
    exact rowSet_traced generated log

/-- Two sources choose different members, and the placeholder in front of them stays the same. -/
theorem placeholder_stays_beside_chosen_member :
    let policy : Policy := ⟨1, false, 33, 126, by decide, by decide, by decide⟩
    let generator : Generator Script := ⟨policy, ⟨2024, 2, 29, 13, 45, 7⟩, Script.source⟩
    let column : Column := ⟨"c", some .character, some 2, false, []⟩
    let table : Table := ⟨"t", "id", [column, ⟨"e", some .enumeration, some 0, false, ["x", "y"]⟩]⟩
    let rows : List (List Text) := [["\"XX\"", "\"x\""], ["\"XX\"", "\"y\""]]
    generator.policy.randomized = false ∧
      (generator.rowSet table 2 ⟨#[0, 1], 0⟩).1.toOption = some ⟨"t", ["`c`", "`e`"], rows⟩ ∧
      table.generated[0]? = some column ∧ column.isDrawn = false ∧
      ∃ otherSet otherAfter,
        generator.rowSet table 2 ⟨#[1, 1], 7⟩ = (.ok otherSet, otherAfter) ∧
        ∃ literal, ∀ row < 2, (⟨"t", ["`c`", "`e`"], rows⟩ : RowSet).cell? row 0 = some literal ∧
          otherSet.cell? row 0 = some literal := by
  intro policy generator column table rows
  have written : (generator.rowSet table 2 ⟨#[0, 1], 0⟩).1.toOption =
      some ⟨"t", ["`c`", "`e`"], rows⟩ := by decide
  refine ⟨rfl, written, rfl, rfl, ?_⟩
  rcases generated : generator.rowSet table 2 ⟨#[0, 1], 0⟩ with ⟨result, after⟩
  rw [generated] at written
  cases result with
  | error fault => cases written
  | ok rowSet =>
      cases written
      have fixed : generator.policy.randomized = false := rfl
      rcases (fixed_rows_ignore_the_source fixed fixed rfl generated ⟨#[1, 1], 7⟩).1 with
        ⟨otherSet, otherAfter, otherGenerated, common⟩
      exact ⟨otherSet, otherAfter, otherGenerated, common 0 column rfl rfl⟩

end Generator

end SchemaSeed
