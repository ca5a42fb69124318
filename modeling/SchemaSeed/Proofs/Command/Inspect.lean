import SchemaSeed.Command
import SchemaSeed.Database.Unreachable
import SchemaSeed.Proofs.Table.Faults

/-! Looking at a schema.  Every block that cannot be read as a table is skipped with a line
of its own, and the tables of all others are handed to the report in document order.  A
length with too many digits is the one thing that ends the command at its block. -/

namespace SchemaSeed

universe u

namespace Report

/-- Tables that can all be shown are shown one after another. -/
theorem modelsFrom_of_shown {tables : List Table} {shown : List Text}
    (models : List.Forall₂ (fun table text => model table = .ok text) tables shown) :
    modelsFrom tables = (shown.flatten, none) := by
  induction models with
  | nil => rfl
  | cons first _ induction => simp only [modelsFrom, first, induction, List.flatten_cons]

end Report

namespace Command

/-- The faults of the blocks that cannot be read, in their order. -/
def faults (blocks : List Text) : List Fault :=
  blocks.filterMap fun block =>
    match Table.parse block with
    | .error fault => some fault
    | .ok _ => none

/-- The tables of the blocks that can be read, in their order. -/
def tables (blocks : List Text) : List Table :=
  blocks.filterMap fun block => (Table.parse block).toOption

/-- What is said of a block that is skipped. -/
def skippedLine (fault : Fault) : Text :=
  "skipped table: " ++ fault.message ++ ['\n']

/-- A fault of an unreadable table, so that its block is skipped. -/
def Skips (block : Text) : Prop :=
  ∀ fault, Table.parse block = .error fault → fault.isUnreadableTable = true

theorem skips_of_no_long_numeral {block : Text}
    (convertible : ∀ digits, Table.parse block ≠ .error (.numeralTooLong digits)) :
    Skips block := by
  intro fault failed
  rcases (Table.refusal_of_parse failed).unreadable_or_longNumeral with
    unreadable | ⟨digits, rfl, -⟩
  · exact unreadable
  · exact absurd failed (convertible digits)

namespace Effect

variable {State : Type u} (effect : Effect State)

/-- The effect with a line for every fault and some more records. -/
def skipping (faults : List Fault) (records : List Log.Record) : Effect State :=
  { effect with
    errors := effect.errors ++ faults.flatMap skippedLine
    records := effect.records ++ records }

theorem skipping_nil : effect.skipping [] [] = effect := by
  simp [skipping]

theorem skipping_skipping (first second : List Fault) (records more : List Log.Record) :
    (effect.skipping first records).skipping second more =
      effect.skipping (first ++ second) (records ++ more) := by
  simp [skipping]

theorem complainLine_skipped {fault : Fault} (oneLine : fault.message.OneLine) :
    effect.complainLine ("skipped table: " ++ fault.message) = effect.skipping [fault] [] := by
  have shown : Text.OneLine ("skipped table: " ++ fault.message) := .append (by decide) oneLine
  rw [complainLine, Terminal.plain_of_oneLine shown, skipping, complain, List.append_nil,
    List.flatMap_cons, List.flatMap_nil, List.append_nil]
  rfl

end Effect

section Blocks

variable {State : Type u}

/-- Blocks that can be read or skipped are passed over: their tables are collected, and each
of the others has its line. -/
theorem inspectBlocks_append {before : List Text} (skips : ∀ block ∈ before, Skips block)
    (rest : List Text) (found : List Table) (effect : Effect State) :
    ∃ records, inspectBlocks found (before ++ rest) effect =
      inspectBlocks ((tables before).reverse ++ found) rest
        (effect.skipping (faults before) records) := by
  induction before generalizing found effect with
  | nil => exact ⟨[], by rw [faults, List.filterMap_nil, effect.skipping_nil]; rfl⟩
  | cons block before induction =>
      rw [List.forall_mem_cons] at skips
      cases read : Reading.ofBlock block with
      | ok reading =>
          have parsed : Table.parse block = .ok reading.table := by rw [Table.parse, read]; rfl
          rcases induction skips.2 (reading.table :: found) (effect.log [reading.record]) with
            ⟨records, passed⟩
          have logged : effect.log [reading.record] = effect.skipping [] [reading.record] := by
            simp [Effect.log, Effect.skipping]
          refine ⟨reading.record :: records, ?_⟩
          rw [logged, Effect.skipping_skipping] at passed
          simp only [List.cons_append, inspectBlocks, read]
          rw [logged, passed]
          simp [tables, faults, parsed, Except.toOption]
      | error fault =>
          have failed : Table.parse block = .error fault := by rw [Table.parse, read]; rfl
          have unreadable := skips.1 fault failed
          have noted := effect.complainLine_skipped
            ((Table.refusal_of_parse failed).oneLine unreadable)
          rcases induction skips.2 found (effect.skipping [fault] []) with ⟨records, passed⟩
          refine ⟨records, ?_⟩
          simp only [List.cons_append, inspectBlocks, read, unreadable, if_true]
          rw [noted, passed, Effect.skipping_skipping]
          simp [tables, faults, failed, Except.toOption]

end Blocks

section Inspect

variable {State : Type u} (world : World State) {schema document : Text}
  (readable : readSchema world (Path.normalize schema) = .ok document)
  {found : List Table} {effect : Effect State}
  (looked : inspectBlocks [] (Sql.segment document)
    ((Effect.start world).log ((Sql.blocks document).filterMap (·.record?))) = (found, effect))

include readable looked

/-- A fault at one of the blocks is the end. -/
theorem inspect_of_escaped (escaped : effect.escaped.isSome = true) :
    inspect world schema = effect := by
  rw [Sql.segment] at looked
  simp only [inspect, readable, looked, escaped, if_true]

/-- Otherwise the tables that were found are shown, as far as that is possible. -/
theorem inspect_of_looked (going : effect.escaped = none) :
    (inspect world schema).errors = effect.errors ∧
      (inspect world schema).output = effect.output ++ (Report.models found).1 ∧
      (inspect world schema).escaped = (Report.models found).2 ∧
      ((Report.models found).2 = none → (inspect world schema).status = effect.status) := by
  rw [Sql.segment] at looked
  rcases models : Report.models found with ⟨output, fault⟩
  have shown : inspect world schema =
      fault.elim (effect.print output) (effect.print output).escape := by
    cases fault <;>
      simp only [inspect, readable, looked, going, models, Option.isSome_none, Bool.false_eq_true,
        if_false, Option.elim_none, Option.elim_some]
  rw [shown]
  cases fault with
  | none => exact ⟨rfl, rfl, going, fun _ => rfl⟩
  | some fault => exact ⟨rfl, rfl, rfl, by rintro ⟨⟩⟩

end Inspect

/-- A readable schema is looked at block by block.  A block that cannot be read as a table
is named in a line of its own and skipped, unless it holds a length with more digits than
are converted.  Without such a length the tables of all other blocks are shown in document
order; the first one ends the command before anything is shown. -/
theorem inspect_skips_unreadable_tables {State : Type u} (world : World State)
    {schema document : Text} (readable : readSchema world (Path.normalize schema) = .ok document) :
    let blocks := Sql.segment document
    let effect := inspect world schema
    (∀ block ∈ blocks, ∀ fault, Table.parse block = .error fault →
      (fault.isUnreadableTable = true ∧ fault.message.OneLine) ∨
        ∃ digits, fault = .numeralTooLong digits ∧ Decimal.HoldsLongNumeral block digits) ∧
    ((∀ block ∈ blocks, ∀ digits, Table.parse block ≠ .error (.numeralTooLong digits)) →
      effect.errors = (faults blocks).flatMap skippedLine ∧
      (effect.output, effect.escaped) = Report.models (tables blocks) ∧
      ∀ shown, tables blocks ≠ [] →
        List.Forall₂ (fun table text => Report.model table = .ok text) (tables blocks) shown →
          effect.output = shown.flatten ∧ effect.escaped = none ∧ effect.status = 0) ∧
    ∀ before block after digits, blocks = before ++ block :: after →
      (∀ earlier ∈ before, ∀ more, Table.parse earlier ≠ .error (.numeralTooLong more)) →
      Table.parse block = .error (.numeralTooLong digits) →
        effect.errors = (faults before).flatMap skippedLine ∧ effect.output = [] ∧
          effect.escaped = some (.numeralTooLong digits) := by
  intro blocks effect
  have passes {before : List Text}
      (convertible : ∀ block ∈ before, ∀ digits,
        Table.parse block ≠ .error (.numeralTooLong digits)) (rest : List Text) :=
    inspectBlocks_append (fun block member => skips_of_no_long_numeral (convertible block member))
      rest [] ((Effect.start world).log ((Sql.blocks document).filterMap (·.record?)))
  refine ⟨?_, ?_, ?_⟩
  · intro block _ fault failed
    have refusal := Table.refusal_of_parse failed
    exact refusal.unreadable_or_longNumeral.imp_left fun unreadable =>
      ⟨unreadable, refusal.oneLine unreadable⟩
  · intro convertible
    rcases passes convertible [] with ⟨records, passed⟩
    rw [List.append_nil, List.append_nil, inspectBlocks, List.reverse_reverse] at passed
    rcases inspect_of_looked world readable passed rfl with ⟨errors, output, escaped, status⟩
    refine ⟨errors, Prod.ext output escaped, fun shown nonempty models => ?_⟩
    have all : Report.models (tables blocks) = (shown.flatten, none) := by
      rw [Report.models, if_neg (by simpa using nonempty), Report.modelsFrom_of_shown models]
    rw [all] at output escaped status
    exact ⟨output, escaped, status rfl⟩
  · intro before block after digits cut convertible failed
    rcases passes convertible (block :: after) with ⟨records, passed⟩
    have refused : Reading.ofBlock block = .error (.numeralTooLong digits) := by
      cases read : Reading.ofBlock block with
      | ok reading =>
          rw [Table.parse, read] at failed
          cases failed
      | error fault =>
          rw [Table.parse, read] at failed
          cases failed
          rfl
    rw [← cut, inspectBlocks, refused] at passed
    have ended := inspect_of_escaped world readable passed rfl
    exact ⟨congrArg Effect.errors ended, congrArg Effect.output ended,
      congrArg Effect.escaped ended⟩

/-- A place with a single file and nothing else. -/
def lonely (document : Text) : World Unit where
  file _ := some (document.map fun character => character.toNat.toUInt8)
  environment := []
  clock := .still
  instant := ⟨2024, 2, 29, 13, 45, 7⟩
  logTime := []
  unforeseen := Twister.ofSeed 0
  server := Database.unreachable
  database := ()

/-- The first of two tables has no key; the other one is shown. -/
theorem inspect_skips_table_without_key :
    let document : Text := "CREATE TABLE `a` (`n` INT); CREATE TABLE `b` (`n` INT PRIMARY KEY)"
    let effect := inspect (lonely document) "s.sql"
    effect.errors = (faults (Sql.segment document)).flatMap skippedLine ∧
      (effect.output, effect.escaped) = Report.models (tables (Sql.segment document)) := by
  intro document effect
  have readable : readSchema (lonely document) (Path.normalize "s.sql") = .ok document := by
    rfl
  have short : ∀ block ∈ Sql.segment document, block.length ≤ Decimal.digitLimit := by decide
  have skipped := (inspect_skips_unreadable_tables (lonely document) readable).2.1
    fun block member digits failed => by
      rcases (Table.refusal_of_parse failed).unreadable_or_longNumeral with
        unreadable | ⟨_, -, holds⟩
      · cases unreadable
      · exact absurd holds.lt_length (Nat.not_lt.mpr (short block member))
  exact ⟨skipped.1, skipped.2.1⟩

end Command

end SchemaSeed
