import SchemaSeed.Database.Scripted
import SchemaSeed.Proofs.Database.Ledger
import SchemaSeed.Random.Scripted

/-! What a run over a database leaves stored, compared with what it reports.  The rows of
every table that is reported as filled are durable.  As long as the database alone
refuses a commit and can be asked to undo it, nothing else is; where it cannot, rows of a
table that is reported as failed are made durable by the next commit. -/

namespace SchemaSeed

universe u v

namespace Filler

/-- The statements of the tables that are reported as filled. -/
def reported (plan : List Preparation) (results : List TableResult) : List Text :=
  (plan.zip results).filterMap fun (preparation, result) =>
    if result.success then preparation.rowSet.toOption.map (·.statement) else none

theorem reported_cons (preparation : Preparation) (rest : List Preparation)
    (result : TableResult) (results : List TableResult) :
    reported (preparation :: rest) (result :: results) =
      (if result.success then preparation.rowSet.toOption.toList.map (·.statement) else []) ++
        reported rest results := by
  rcases preparation with ⟨name, rowSet⟩
  cases taken : result.success <;> cases rowSet <;>
    simp [reported, taken, Except.toOption]

/-- The tables reported as filled are those whose rows were taken. -/
theorem reported_eq_accepted {policy : Policy} {number : Nat} {plan : List Preparation}
    {answers : List (Except Fault Outcome)} {results : List TableResult}
    (enough : answers.length = (readyRows plan).length)
    (reports : List.Forall₂ (Reports policy) (endings number plan answers) results) :
    reported plan results = Database.accepted (readyRows plan) answers := by
  induction plan generalizing number answers results with
  | nil => rfl
  | cons preparation rest induction =>
      rcases preparation with ⟨name, rowSet⟩
      cases rowSet with
      | error fault =>
          rw [endings] at reports
          cases reports with
          | cons _ later =>
              rw [reported_cons, readyRows_unprepared, induction enough later]
              simp [Except.toOption]
      | ok rowSet =>
          cases answers with
          | nil => simp at enough
          | cons answer answers =>
              rw [endings] at reports
              cases reports with
              | @cons _ result _ _ told later =>
                  have taken : result.success = Database.accepts answer := by
                    cases answer <;> exact told.success
                  have enough : answers.length = (readyRows rest).length := by simpa using enough
                  rw [reported_cons, readyRows_ready, Database.accepted_cons,
                    induction enough later, taken]
                  rfl

section Durability

variable {State : Type u} {Random : Type v} {server : Database.Server State}
  {opening : Database.Session.Opening State}

/-- What a run over a database makes durable are rows that were handed over, those of the
tables reported as filled among them, in their order.  With orderly refusals it is nothing
else, and nothing is left pending. -/
theorem run_stores_reported_tables (honest : Database.OnlyConnects server opening)
    (parameters : Database.Parameters) (generator : Generator Random) (strict : Bool)
    (document : Text)
    (state : Filler.State (Database.Session State) Random)
    (settled : state.sink.ledger.pending = []) :
    let filler : Filler (Database.Session State) Random :=
      ⟨generator, Database.destination server opening parameters, strict⟩
    let plan := filler.plan (Sql.segment document) state.random
    ∀ results final, filler.run document state = (.ok results, final) →
      results.length = plan.length ∧
      ∃ stored, final.sink.ledger.durable = state.sink.ledger.durable ++ stored ∧
        (reported plan results).Sublist stored ∧
        stored.Sublist ((readyRows plan).map (·.statement)) ∧
        (server.Orderly → stored = reported plan results ∧ final.sink.ledger.pending = []) := by
  intro filler plan results final ran
  rcases filler.run_of_quiet document state (filler.quiet_of_run_ok ran) with
    ⟨_, _, ranSo, reports, standing⟩
  rw [ran] at ranSo
  cases ranSo
  have enough := Destination.length_answers filler.destination (readyRows plan) state.sink
  have count : results.length = plan.length := by
    rw [← reports.length_eq]
    exact length_endings 1 plan _ enough
  have sink : final.sink = filler.destination.sinkAfter (readyRows plan) state.sink :=
    congrArg Standing.sink standing
  rcases Database.destination_stores honest parameters (readyRows plan) state.sink with
    ⟨stored, stores⟩
  rw [← reported_eq_accepted enough reports, ← sink] at stores
  refine ⟨count, stored, stores.durable, stores.accepted_sublist, ?_, ?_⟩
  · have all := (List.sublist_append_left stored _).trans stores.stored_sublist
    rwa [settled, List.nil_append] at all
  · exact fun orderly => stores.settled orderly settled

end Durability

/-! ## A refused commit -/

/-- One row of placeholders for every table. -/
def placeholders {State : Type u} (server : Database.Server State) :
    Filler (Database.Session State) Script where
  generator := ⟨{ Policy.default with randomized := false }, ⟨2024, 2, 29, 13, 45, 7⟩,
    Script.source⟩
  destination :=
    let parameters : Database.Parameters := ⟨"localhost", 3306, "root", "", "shop", "utf8mb4"⟩
    Database.destination server (Database.Session.connect server parameters) parameters
  strict := false

def twoTables : Text :=
  "CREATE TABLE `a` (`id` INT, `n` TINYINT, PRIMARY KEY (`id`)) ENGINE=InnoDB; " ++
    "CREATE TABLE `b` (`id` INT, `n` TINYINT, PRIMARY KEY (`id`)) ENGINE=InnoDB;"

/-- A commit that the database refuses is undone. -/
theorem refused_commit_stores_nothing :
    let filler := placeholders (Database.refusing .commit Database.deadlock)
    let state : State (Database.Session Nat) Script := .start (.start 1) ⟨#[0], 0⟩ .still
    let plan := filler.plan (Sql.segment twoTables) state.random
    ∃ results final, filler.run twoTables state = (.ok results, final) ∧
      results.map (·.success) = [false, true] ∧
      final.sink.ledger = ⟨[], reported plan results⟩ := by
  intro filler state plan
  have told : (filler.run twoTables state).1.toOption.map (·.map (·.success)) =
      some [false, true] := by
    decide +kernel
  rcases ran : filler.run twoTables state with ⟨ended, final⟩
  rw [ran] at told
  cases ended with
  | error fault => cases told
  | ok results =>
      have orderly : (Database.refusing .commit Database.deadlock).Orderly := by
        refine ⟨fun action times => ?_, fun times => rfl⟩
        simp only [Database.refusing]
        split
        · rename_i refused
          rw [refused.1]
          rfl
        · cases action with
          | execute statement =>
              have short : Decimal.isTooLong 1 = false := by decide +kernel
              simp [Database.Exchange.orderly, short]
          | _ => rfl
      have stores := run_stores_reported_tables (Database.onlyConnects_connect _ _) _
        filler.generator false twoTables state rfl results final ran
      rcases stores with ⟨-, stored, durable, -, -, settled⟩
      have same : stored = reported plan results := (settled orderly).1
      have pending := (settled orderly).2
      refine ⟨results, final, rfl, Option.some.inj told, ?_⟩
      rcases ledger : final.sink.ledger with ⟨left, kept⟩
      rw [ledger] at durable pending
      cases pending
      rw [← same]
      exact congrArg _ durable

/-- A commit that is refused with an error of the operating system is not undone.  The
table is reported as failed, and the commit of the next table makes its row durable. -/
theorem broken_commit_stores_failed_table :
    let filler := placeholders Database.ScriptedServer.server
    let script : Database.ScriptedServer :=
      ⟨1, [], [⟨"commit", 1, ⟨.system, [.integer 5, .text "io"], none⟩⟩]⟩
    let ended := filler.run twoTables (.start (.start script) ⟨#[0], 0⟩ .still)
    ended.1.toOption.map (·.map fun result => (result.table, result.success)) =
        some ([("a", false), ("b", true)] : List (Text × Bool)) ∧
      ended.2.sink.ledger.durable =
        ["INSERT INTO `a` (`n`) VALUES (127)", "INSERT INTO `b` (`n`) VALUES (127)"] := by
  decide +kernel

end Filler

end SchemaSeed
