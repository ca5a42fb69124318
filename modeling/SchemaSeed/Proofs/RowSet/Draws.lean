import SchemaSeed.Proofs.Literal.Calls

/-! What the rows of a table draw.  Every row takes the same calls, one column after the other,
and begins where the row before it has left the source.  A literal is settled by the answers to
its own calls, which stand at a place that can be told beforehand. -/

namespace SchemaSeed

open RandomSource

namespace RowSet

/-- The literal in a row and a column, both counted from zero. -/
def cell? (rowSet : RowSet) (row place : Nat) : Option Text :=
  rowSet.rows[row]?.bind (·[place]?)

end RowSet

namespace Policy

variable (policy : Policy)

/-- The calls that a row takes. -/
def rowCalls (columns : List Column) : List Call :=
  columns.flatMap policy.calls

/-- The calls that so many rows take. -/
def rowsCalls (columns : List Column) (count : Nat) : List Call :=
  (List.replicate count (policy.rowCalls columns)).flatten

/-- How many calls a row takes. -/
def rowDraws : List Column → Nat
  | [] => 0
  | column :: rest => policy.drawCount column + rowDraws rest

/-- Of all the answers to the calls of several rows, those to the calls of one literal. -/
def ownAnswers (columns : List Column) (answers : List Answer) (row place : Nat)
    (column : Column) : List Answer :=
  (answers.drop (row * policy.rowDraws columns + policy.rowDraws (columns.take place))).take
    (policy.drawCount column)

theorem length_rowCalls (columns : List Column) :
    (policy.rowCalls columns).length = policy.rowDraws columns := by
  induction columns with
  | nil => rfl
  | cons column rest induction =>
      rw [rowCalls, List.flatMap_cons, List.length_append, length_calls, ← rowCalls, induction,
        rowDraws]

theorem rowsCalls_add (columns : List Column) (count more : Nat) :
    policy.rowsCalls columns (count + more) =
      policy.rowsCalls columns count ++ policy.rowsCalls columns more := by
  rw [rowsCalls, ← List.replicate_append_replicate, List.flatten_append]
  rfl

theorem rowsCalls_succ (columns : List Column) (count : Nat) :
    policy.rowsCalls columns (count + 1) =
      policy.rowCalls columns ++ policy.rowsCalls columns count := by
  rw [rowsCalls, List.replicate_succ, List.flatten_cons, rowsCalls]

theorem length_rowsCalls (columns : List Column) (count : Nat) :
    (policy.rowsCalls columns count).length = count * policy.rowDraws columns := by
  induction count with
  | zero => simp [rowsCalls]
  | succ count induction =>
      rw [rowsCalls_succ, List.length_append, length_rowCalls, induction, Nat.succ_mul,
        Nat.add_comm]

/-- The calls of one column stand between those of the columns before and behind it. -/
theorem rowCalls_split {columns : List Column} {place : Nat} {column : Column}
    (found : columns[place]? = some column) :
    ∃ later, policy.rowCalls columns =
      policy.rowCalls (columns.take place) ++ policy.calls column ++ later := by
  rcases List.getElem?_eq_some_iff.mp found with ⟨within, rfl⟩
  refine ⟨policy.rowCalls (columns.drop (place + 1)), ?_⟩
  calc policy.rowCalls columns
      _ = policy.rowCalls (columns.take place ++ columns[place] :: columns.drop (place + 1)) := by
        rw [← List.drop_eq_getElem_cons within, List.take_append_drop]
      _ = policy.rowCalls (columns.take place) ++ policy.calls columns[place] ++
          policy.rowCalls (columns.drop (place + 1)) := by
        simp only [rowCalls, List.flatMap_append, List.flatMap_cons, List.append_assoc]

variable {State : Type u}

/-- The answers to the calls of a literal are those that a source gives to them once it has
answered the calls of the rows and columns before. -/
theorem ownAnswers_askAll (source : RandomSource State) {columns : List Column} {place : Nat}
    {column : Column} (found : columns[place]? = some column) {row count : Nat}
    (within : row < count) (state : State) :
    policy.ownAnswers columns (source.askAll (policy.rowsCalls columns count) state).1 row place
        column =
      (source.askAll (policy.calls column) (source.askAll
        (policy.rowsCalls columns row ++ policy.rowCalls (columns.take place)) state).2).1 := by
  rcases policy.rowCalls_split found with ⟨later, split⟩
  have calls : policy.rowsCalls columns count =
      (policy.rowsCalls columns row ++ policy.rowCalls (columns.take place)) ++
        policy.calls column ++ (later ++ policy.rowsCalls columns (count - row - 1)) := by
    have parts : count = row + (count - row - 1 + 1) := by omega
    rw [parts, rowsCalls_add, rowsCalls_succ, split]
    simp only [List.append_assoc, Nat.add_sub_cancel_left, Nat.add_sub_cancel]
  have before : (policy.rowsCalls columns row ++ policy.rowCalls (columns.take place)).length =
      row * policy.rowDraws columns + policy.rowDraws (columns.take place) := by
    rw [List.length_append, length_rowsCalls, length_rowCalls]
  rw [ownAnswers, calls, ← before, ← policy.length_calls column]
  exact source.slice_askAll _ _ _ state

end Policy

namespace Generator

variable {State : Type u} {OtherState : Type v}

/-! ## Rows from their parts -/

section Parts

variable {generator : Generator State} {columns : List Column} {before after : State}

theorem fillsRows_add_iff {count more : Nat} {written : List (List Text)} :
    generator.FillsRows columns (count + more) before written after ↔
      ∃ front between back, generator.FillsRows columns count before front between ∧
        generator.FillsRows columns more between back after ∧ written = front ++ back := by
  induction count generalizing before written with
  | zero =>
      rw [Nat.zero_add]
      constructor
      · intro fills
        exact ⟨[], before, written, .done, fills, rfl⟩
      · rintro ⟨front, between, back, ⟨⟩, fills, rfl⟩
        exact fills
  | succ count induction =>
      rw [Nat.succ_add_eq_add_succ, Nat.add_succ]
      constructor
      · rintro (_ | ⟨filled, later⟩)
        rcases induction.mp later with ⟨front, between, back, fillsFront, fillsBack, rfl⟩
        exact ⟨_ :: front, between, back, .filled filled fillsFront, fillsBack, rfl⟩
      · rintro ⟨front, between, back, (_ | ⟨filled, fillsFront⟩), fillsBack, rfl⟩
        exact .filled filled (induction.mpr ⟨_, between, back, fillsFront, fillsBack, rfl⟩)

/-- A row set in two parts, the second of which begins where the first has left the source. -/
theorem rowSet_add_iff {table : Table} {count more : Nat} {rowSet : RowSet} :
    generator.rowSet table (count + more) before = (.ok rowSet, after) ↔
      ∃ front between back, generator.rowSet table count before = (.ok front, between) ∧
        generator.rowSet table more between = (.ok back, after) ∧
        rowSet = ⟨front.table, front.fields, front.rows ++ back.rows⟩ := by
  rw [rowSet_eq_ok_iff, fillsRows_add_iff]
  constructor
  · rintro ⟨name, fields, front, between, back, fillsFront, fillsBack, rows⟩
    refine ⟨⟨table.name, table.generated.map (·.quotedName), front⟩, between,
      ⟨table.name, table.generated.map (·.quotedName), back⟩,
      rowSet_eq_ok_iff.mpr ⟨rfl, rfl, fillsFront⟩, rowSet_eq_ok_iff.mpr ⟨rfl, rfl, fillsBack⟩, ?_⟩
    rw [← name, ← fields, ← rows]
  · rintro ⟨front, between, back, generatedFront, generatedBack, rfl⟩
    rcases rowSet_eq_ok_iff.mp generatedFront with ⟨name, fields, fillsFront⟩
    rcases rowSet_eq_ok_iff.mp generatedBack with ⟨-, -, fillsBack⟩
    exact ⟨name, fields, _, between, _, fillsFront, fillsBack, rfl⟩

end Parts

/-! ## Rows and their calls -/

section Calls

variable {policy : Policy} {instant : Instant} {source : RandomSource State}
  {other : RandomSource OtherState} {columns : List Column} {before after : State}

/-- Another source that answers the calls of a row alike fills the same row. -/
theorem FillsRow.of_alike {literals : List Text}
    (fills : FillsRow ⟨policy, instant, source⟩ columns before literals after)
    {otherBefore : OtherState}
    (alike : (source.askAll (policy.rowCalls columns) before).1 =
      (other.askAll (policy.rowCalls columns) otherBefore).1) :
    after = (source.askAll (policy.rowCalls columns) before).2 ∧
      FillsRow ⟨policy, instant, other⟩ columns otherBefore literals
        (other.askAll (policy.rowCalls columns) otherBefore).2 := by
  induction fills generalizing otherBefore with
  | done => exact ⟨rfl, .done⟩
  | @filled column columns before between after literal literals generated later induction =>
      simp only [Policy.rowCalls, List.flatMap_cons, askAll_append] at alike ⊢
      rcases List.append_inj alike (by rw [length_askAll, length_askAll]) with ⟨own, others⟩
      cases after_eq_of_generate generated
      rcases induction others with ⟨moved, fillsOther⟩
      exact ⟨moved, .filled (generate_of_alike generated own) fillsOther⟩

theorem FillsRows.of_alike {count : Nat} {written : List (List Text)}
    (fills : FillsRows ⟨policy, instant, source⟩ columns count before written after)
    {otherBefore : OtherState}
    (alike : (source.askAll (policy.rowsCalls columns count) before).1 =
      (other.askAll (policy.rowsCalls columns count) otherBefore).1) :
    after = (source.askAll (policy.rowsCalls columns count) before).2 ∧
      FillsRows ⟨policy, instant, other⟩ columns count otherBefore written
        (other.askAll (policy.rowsCalls columns count) otherBefore).2 := by
  induction fills generalizing otherBefore with
  | done => exact ⟨rfl, .done⟩
  | filled filled later induction =>
      simp only [Policy.rowsCalls_succ, askAll_append] at alike ⊢
      rcases List.append_inj alike (by rw [length_askAll, length_askAll]) with ⟨own, others⟩
      rcases filled.of_alike own with ⟨rfl, filledOther⟩
      rcases induction others with ⟨moved, fillsOther⟩
      exact ⟨moved, .filled filledOther fillsOther⟩

theorem FillsRow.after_eq {literals : List Text}
    (fills : FillsRow ⟨policy, instant, source⟩ columns before literals after) :
    after = (source.askAll (policy.rowCalls columns) before).2 :=
  (fills.of_alike rfl).1

/-- The literal of a column is generated once the calls of the columns before it were made. -/
theorem FillsRow.exists_literal {literals : List Text}
    (fills : FillsRow ⟨policy, instant, source⟩ columns before literals after) {place : Nat}
    {column : Column} (found : columns[place]? = some column) :
    ∃ literal between, literals[place]? = some literal ∧
      generate ⟨policy, instant, source⟩ column
        (source.askAll (policy.rowCalls (columns.take place)) before).2 =
        (.ok (some literal), between) := by
  induction fills generalizing place with
  | done => cases found
  | @filled first columns before between after literal literals generated later induction =>
      cases place with
      | zero =>
          cases found
          exact ⟨literal, between, rfl, generated⟩
      | succ place =>
          cases after_eq_of_generate generated
          simp only [List.take_succ_cons, Policy.rowCalls, List.flatMap_cons, askAll_append]
          exact induction found

/-- A row is filled once the calls of the rows before it were made. -/
theorem FillsRows.exists_row {count : Nat} {written : List (List Text)}
    (fills : FillsRows ⟨policy, instant, source⟩ columns count before written after) {row : Nat}
    (within : row < count) :
    ∃ literals between, written[row]? = some literals ∧
      FillsRow ⟨policy, instant, source⟩ columns
        (source.askAll (policy.rowsCalls columns row) before).2 literals between := by
  induction fills generalizing row with
  | done => cases within
  | filled filled later induction =>
      cases row with
      | zero => exact ⟨_, _, rfl, filled⟩
      | succ row =>
          cases filled.after_eq
          rw [Policy.rowsCalls_succ, askAll_append]
          exact induction (Nat.lt_of_succ_lt_succ within)

/-- The literal in a row and a column is generated once the calls of the rows and columns
before it were made. -/
theorem exists_cell {table : Table} {count : Nat} {rowSet : RowSet}
    (generated : Generator.rowSet ⟨policy, instant, source⟩ table count before =
      (.ok rowSet, after))
    {row place : Nat} {column : Column} (within : row < count)
    (found : table.generated[place]? = some column) :
    ∃ literal between, rowSet.cell? row place = some literal ∧
      generate ⟨policy, instant, source⟩ column
        (source.askAll (policy.rowsCalls table.generated row ++
          policy.rowCalls (table.generated.take place)) before).2 =
        (.ok (some literal), between) := by
  rcases rowSet_eq_ok_iff.mp generated with ⟨-, -, fills⟩
  rcases fills.exists_row within with ⟨literals, _, listed, filled⟩
  rcases filled.exists_literal found with ⟨literal, between, among, written⟩
  rw [askAll_append]
  exact ⟨literal, between, by rw [RowSet.cell?, listed, Option.bind_some, among], written⟩

/-- Two literals of a column are the same if the answers to their own calls are, whatever else is
drawn for their row sets. -/
theorem exists_same_cell {table : Table} {count otherCount : Nat} {rowSet otherSet : RowSet}
    {otherBefore otherAfter : OtherState}
    (generated : Generator.rowSet ⟨policy, instant, source⟩ table count before =
      (.ok rowSet, after))
    (otherGenerated : Generator.rowSet ⟨policy, instant, other⟩ table otherCount otherBefore =
      (.ok otherSet, otherAfter))
    {row otherRow place : Nat} {column : Column} (within : row < count)
    (otherWithin : otherRow < otherCount) (found : table.generated[place]? = some column)
    (alike : policy.ownAnswers table.generated
        (source.askAll (policy.rowsCalls table.generated count) before).1 row place column =
      policy.ownAnswers table.generated
        (other.askAll (policy.rowsCalls table.generated otherCount) otherBefore).1 otherRow place
        column) :
    ∃ literal, rowSet.cell? row place = some literal ∧
      otherSet.cell? otherRow place = some literal := by
  rw [policy.ownAnswers_askAll source found within,
    policy.ownAnswers_askAll other found otherWithin] at alike
  rcases exists_cell generated within found with ⟨literal, _, cell, written⟩
  rcases exists_cell otherGenerated otherWithin found with
    ⟨otherLiteral, _, otherCell, otherWritten⟩
  rw [generate_of_alike written alike] at otherWritten
  cases otherWritten
  exact ⟨literal, cell, otherCell⟩

/-- A source that keeps the calls it receives gives the same rows, and has received the calls
of all rows. -/
theorem rowSet_traced {table : Table} {count : Nat} {rowSet : RowSet}
    (generated : Generator.rowSet ⟨policy, instant, source⟩ table count before =
      (.ok rowSet, after))
    (log : List Call) :
    (Generator.traced ⟨policy, instant, source⟩).rowSet table count (before, log) =
      (.ok rowSet, after, (policy.rowsCalls table.generated count).reverse ++ log) := by
  rcases rowSet_eq_ok_iff.mp generated with ⟨name, fields, fills⟩
  have traced := source.askAll_traced (policy.rowsCalls table.generated count) before log
  rcases fills.of_alike (congrArg Prod.fst traced).symm with ⟨rfl, fillsTraced⟩
  rw [traced] at fillsTraced
  exact rowSet_eq_ok_iff.mpr ⟨name, fields, fillsTraced⟩

end Calls

/-- The rows of a table can be generated in parts, each beginning where the one before has left
the source, and the parts are the rows of the whole.  Every row takes the same calls, as many as
its columns take together, and nothing else is asked for.  A literal is settled by the answers to
its own calls: those that come behind the calls of the rows and of the columns before it. -/
theorem rows_are_settled_by_their_draws (policy : Policy) (instant : Instant)
    (source : RandomSource State) (table : Table) (state : State) :
    let generator : Generator State := ⟨policy, instant, source⟩
    let columns := table.generated
    (∀ count more rowSet after,
      generator.rowSet table (count + more) state = (.ok rowSet, after) ↔
        ∃ front between back, generator.rowSet table count state = (.ok front, between) ∧
          generator.rowSet table more between = (.ok back, after) ∧
          rowSet = ⟨front.table, front.fields, front.rows ++ back.rows⟩) ∧
      (policy.rowCalls columns).length = policy.rowDraws columns ∧
      ∀ count rowSet after, generator.rowSet table count state = (.ok rowSet, after) →
        (∀ log, generator.traced.rowSet table count (state, log) =
          (.ok rowSet, after, (policy.rowsCalls columns count).reverse ++ log)) ∧
        ∀ (other : RandomSource OtherState) otherCount otherState otherSet otherAfter,
          Generator.rowSet ⟨policy, instant, other⟩ table otherCount otherState =
            (.ok otherSet, otherAfter) →
          ∀ row otherRow place column, row < count → otherRow < otherCount →
            columns[place]? = some column →
            policy.ownAnswers columns
                (source.askAll (policy.rowsCalls columns count) state).1 row place column =
              policy.ownAnswers columns
                (other.askAll (policy.rowsCalls columns otherCount) otherState).1 otherRow place
                column →
            ∃ literal, rowSet.cell? row place = some literal ∧
              otherSet.cell? otherRow place = some literal := by
  intro generator columns
  refine ⟨fun count more rowSet after => rowSet_add_iff, policy.length_rowCalls columns, ?_⟩
  intro count rowSet after generated
  refine ⟨rowSet_traced generated, ?_⟩
  intro other otherCount otherState otherSet otherAfter otherGenerated row otherRow place column
    within otherWithin found alike
  exact exists_same_cell generated otherGenerated within otherWithin found alike

/-- A row with two characters and a member of an enumeration takes three calls, and the row
behind it begins with the fourth. -/
theorem two_rows_follow_each_other :
    let policy : Policy := ⟨1, true, 65, 90, by decide, by decide, by decide⟩
    let generator : Generator Script := ⟨policy, ⟨2024, 2, 29, 13, 45, 7⟩, Script.source⟩
    let table : Table := ⟨"t", "id", [⟨"c", some .character, some 2, false, []⟩,
      ⟨"g", none, some 0, false, []⟩, ⟨"e", some .enumeration, some 0, false, ["x", "y"]⟩]⟩
    let first : List Text := ["\"AB\"", "\"x\""]
    let second : List Text := ["\"DE\"", "\"y\""]
    let script : Script := ⟨#[0, 1, 2, 3, 4, 5], 0⟩
    policy.rowDraws table.generated = 3 ∧
      (generator.rowSet table (1 + 1) script).1.toOption =
        some ⟨"t", ["`c`", "`e`"], [first, second]⟩ ∧
      ∃ front between back after, generator.rowSet table 1 script = (.ok front, between) ∧
        generator.rowSet table 1 between = (.ok back, after) ∧
        [first, second] = front.rows ++ back.rows := by
  intro policy generator table first second script
  have written : (generator.rowSet table (1 + 1) script).1.toOption =
      some ⟨"t", ["`c`", "`e`"], [first, second]⟩ := by decide
  refine ⟨rfl, written, ?_⟩
  rcases generated : generator.rowSet table (1 + 1) script with ⟨result, after⟩
  rw [generated] at written
  cases result with
  | error fault => cases written
  | ok rowSet =>
      cases written
      have settled := @rows_are_settled_by_their_draws Script Script policy generator.instant
        generator.source table script
      rcases (settled.1 1 1 _ after).mp generated with
        ⟨front, between, back, generatedFront, generatedBack, same⟩
      exact ⟨front, between, back, after, generatedFront, generatedBack, congrArg RowSet.rows same⟩

end Generator

end SchemaSeed
