import SchemaSeed.Proofs.Fill.Isolation
import SchemaSeed.Proofs.RowSet.Statement

/-! Two destinations for one document.  What a run hands over is settled before the
destination is asked for anything, so two destinations that do not end their runs are handed
the same row sets, whatever each of them answers.  An answer shows in the result of its
own table only. -/

namespace SchemaSeed

universe u v w

namespace Destination

variable {Sink : Type u} (destination : Destination Sink)

/-- A destination none of whose answers ends a run. -/
def NeverEnds : Prop :=
  ∀ (rowSet : RowSet) (sink : Sink),
    ending? (destination.deliver rowSet.batch sink).1.outcome = none

theorem NeverEnds.answers {destination : Destination Sink} (never : destination.NeverEnds)
    (rowSets : List RowSet) (sink : Sink) :
    ∀ answer ∈ destination.answers rowSets sink, ending? answer = none := by
  induction rowSets generalizing sink with
  | nil => simp [Destination.answers]
  | cons rowSet rest induction =>
      rw [Destination.answers, List.forall_mem_cons]
      exact ⟨never rowSet sink, induction _⟩

/-- The answer is a fault that brings the name of a table with it. -/
def NamesTable (answer : Except Fault Outcome) : Prop :=
  ∃ fault name, answer = .error fault ∧ fault.table? = some name

end Destination

/-- All that is generated is text, so the statement of a row set can always be shown. -/
theorem DryRun.neverEnds : DryRun.destination.NeverEnds := by
  intro rowSet statements
  have shown : ∃ outcome statement, DryRun.outcome rowSet.batch = .ok (outcome, statement) := by
    rw [DryRun.outcome, RowSet.statement_batch, RowSet.batch, joinTexts_map_text,
      RowSet.renderRows_map]
    exact ⟨_, _, rfl⟩
  rcases shown with ⟨outcome, statement, shown⟩
  have answered : (DryRun.destination.deliver rowSet.batch statements).1.outcome = .ok outcome := by
    unfold DryRun.destination
    dsimp only
    rw [shown]
  rw [answered]
  rfl

namespace Filler

open Destination (NamesTable)

/-! ## Two accounts of one plan -/

/-- The results of two runs over the same plan, each with the answers of its own
destination.  A table that was not handed over has the same result in both, but for times.
A table that was handed over has the same name in both, unless one of the two answers to it
brings a name of its own. -/
inductive Paired : List Preparation → List (Except Fault Outcome) → List (Except Fault Outcome) →
    List TableResult → List TableResult → Prop
  | done : Paired [] [] [] [] []
  | unprepared {name fault rest answers others results otherResults} {result other : TableResult}
      (table : result.table = other.table) (alike : Alike result other)
      (later : Paired rest answers others results otherResults) :
      Paired (⟨name, .error fault⟩ :: rest) answers others (result :: results)
        (other :: otherResults)
  | ready {name rowSet rest answers others results otherResults} {answer otherAnswer}
      {result other : TableResult}
      (requested : result.requested = other.requested) (mode : result.mode = other.mode)
      (table : ¬ NamesTable answer → ¬ NamesTable otherAnswer → result.table = other.table)
      (alike : answer = otherAnswer → Alike result other)
      (later : Paired rest answers others results otherResults) :
      Paired (⟨name, .ok rowSet⟩ :: rest) (answer :: answers) (otherAnswer :: others)
        (result :: results) (other :: otherResults)

theorem Paired.length_eq {plan : List Preparation} {answers others : List (Except Fault Outcome)}
    {results otherResults : List TableResult}
    (paired : Paired plan answers others results otherResults) :
    results.length = otherResults.length := by
  induction paired with
  | done => rfl
  | unprepared _ _ _ induction => exact congrArg Nat.succ induction
  | ready _ _ _ _ _ induction => exact congrArg Nat.succ induction

/-- Without a name of its own, an answer leaves a table the name under which it was
prepared. -/
theorem Ending.label_of_nameless {number : Nat} {name : Option Text}
    {answer : Except Fault Outcome} (nameless : ¬ NamesTable answer) :
    Ending.label ⟨number, name, answer⟩ = name.getD ("#" ++ Decimal.natural number) := by
  cases answer with
  | ok outcome => rfl
  | error fault =>
      have unnamed : fault.table? = none := by
        by_contra named
        rcases Option.ne_none_iff_exists'.mp named with ⟨own, named⟩
        exact nameless ⟨fault, own, rfl, named⟩
      change fault.table?.getD _ = _
      rw [unnamed]
      rfl

/-- Two runs that gave an account of the same plan are paired. -/
theorem paired_of_reports {policy : Policy} {number : Nat} {plan : List Preparation}
    {answers others : List (Except Fault Outcome)} {results otherResults : List TableResult}
    (enough : answers.length = (readyRows plan).length)
    (otherEnough : others.length = (readyRows plan).length)
    (reports : List.Forall₂ (Reports policy) (endings number plan answers) results)
    (otherReports : List.Forall₂ (Reports policy) (endings number plan others) otherResults) :
    Paired plan answers others results otherResults := by
  induction plan generalizing number answers others results otherResults with
  | nil =>
      cases List.length_eq_zero_iff.mp enough
      cases List.length_eq_zero_iff.mp otherEnough
      cases reports
      cases otherReports
      exact .done
  | cons preparation rest induction =>
      rcases preparation with ⟨name, rowSet⟩
      cases rowSet with
      | error fault =>
          rw [endings] at reports otherReports
          cases reports with
          | cons told later =>
              cases otherReports with
              | cons otherTold otherLater =>
                  exact .unprepared (told.table.trans otherTold.table.symm)
                    (alike_of_reports told otherTold rfl)
                    (induction enough otherEnough later otherLater)
      | ok rowSet =>
          rw [readyRows_ready] at enough otherEnough
          rcases List.exists_cons_of_length_eq_add_one enough with ⟨answer, answers, rfl⟩
          rcases List.exists_cons_of_length_eq_add_one otherEnough with ⟨otherAnswer, others, rfl⟩
          rw [endings] at reports otherReports
          cases reports with
          | cons told later =>
              cases otherReports with
              | cons otherTold otherLater =>
                  refine .ready (told.requested.trans otherTold.requested.symm)
                    (told.mode.trans otherTold.mode.symm) ?_ (alike_of_reports told otherTold)
                    (induction (Nat.succ.inj enough) (Nat.succ.inj otherEnough) later otherLater)
                  intro nameless otherNameless
                  rw [told.table, otherTold.table, Ending.label_of_nameless nameless,
                    Ending.label_of_nameless otherNameless]

/-! ## Two runs -/

section Runs

variable {Sink : Type u} {OtherSink : Type w} {Random : Type v} (generator : Generator Random)
  (strict : Bool) (destination : Destination Sink) (otherDestination : Destination OtherSink)

/-- What is planned for a document does not depend on the destination. -/
theorem plan_eq_plan (blocks : List Text) (random : Random) :
    plan ⟨generator, destination, strict⟩ blocks random =
      plan ⟨generator, otherDestination, strict⟩ blocks random := by
  induction blocks generalizing random with
  | nil => rfl
  | cons block rest induction => exact congrArg _ (induction _)

/-- What a run hands over are the row sets of one plan, up to the first whose answer ends the
run; so of those handed to two destinations, the one list starts with the other.  If no answer
ends a run, both are handed all row sets, and the random source ends in the same state.  The
results of the two runs then stand for the same tables and differ in nothing that the answers
do not tell. -/
theorem destination_leaves_data_alone (document : Text) (state : State Sink Random)
    (other : State OtherSink Random) (sameRandom : other.random = state.random) :
    let filler : Filler Sink Random := ⟨generator, destination, strict⟩
    let otherFiller : Filler OtherSink Random := ⟨generator, otherDestination, strict⟩
    let plan := filler.plan (Sql.segment document) state.random
    let answers := destination.answers (readyRows plan) state.sink
    let otherAnswers := otherDestination.answers (readyRows plan) other.sink
    let handed := destination.handedOver (readyRows plan) state.sink
    let otherHanded := otherDestination.handedOver (readyRows plan) other.sink
    (filler.run document state).2.delivered = state.delivered ++ handed ∧
    (otherFiller.run document other).2.delivered = other.delivered ++ otherHanded ∧
    (handed <+: otherHanded ∨ otherHanded <+: handed) ∧
    ((∀ answer ∈ answers, Destination.ending? answer = none) →
      (∀ answer ∈ otherAnswers, Destination.ending? answer = none) →
      ∃ results otherResults final otherFinal,
        filler.run document state = (.ok results, final) ∧
        otherFiller.run document other = (.ok otherResults, otherFinal) ∧
        final.delivered = state.delivered ++ readyRows plan ∧
        otherFinal.delivered = other.delivered ++ readyRows plan ∧
        final.sink = destination.sinkAfter (readyRows plan) state.sink ∧
        otherFinal.sink = otherDestination.sinkAfter (readyRows plan) other.sink ∧
        otherFinal.random = final.random ∧
        results.length = otherResults.length ∧
        Paired plan answers otherAnswers results otherResults) := by
  intro filler otherFiller plan answers otherAnswers handed otherHanded
  have samePlan : otherFiller.plan (Sql.segment document) other.random = plan := by
    rw [sameRandom]
    exact plan_eq_plan generator strict otherDestination destination _ _
  have sameAnswers : otherFiller.answersTo (Sql.segment document) other.random other.sink =
      otherAnswers := by
    rw [answersTo, samePlan]
  have otherDelivered := (otherFiller.run_hands_over document other).1
  rw [samePlan] at otherDelivered
  refine ⟨(filler.run_hands_over document state).1, otherDelivered,
    List.prefix_or_prefix_of_prefix (destination.handedOver_prefix _ _)
      (otherDestination.handedOver_prefix _ _), fun quiet otherQuiet => ?_⟩
  rcases filler.run_of_quiet document state quiet with
    ⟨results, final, ran, reports, standing⟩
  rcases otherFiller.run_of_quiet document other (sameAnswers ▸ otherQuiet) with
    ⟨otherResults, otherFinal, otherRan, otherReports, otherStanding⟩
  rw [samePlan] at otherReports otherStanding
  rw [sameAnswers] at otherReports
  have paired : Paired plan answers otherAnswers results otherResults :=
    paired_of_reports (Destination.length_answers _ _ _) (Destination.length_answers _ _ _)
      reports otherReports
  rcases State.fields_of_standing standing with ⟨sink, source, delivered⟩
  rcases State.fields_of_standing otherStanding with ⟨otherSink, otherSource, otherDelivered⟩
  refine ⟨results, otherResults, final, otherFinal, ran, otherRan, delivered, otherDelivered,
    sink, otherSink, ?_, paired.length_eq, paired⟩
  rw [source, otherSource, sameRandom]
  rfl

end Runs

/-- A destination that turns away every other row set and fails at the rest, naming a table
that nobody asked about. -/
def moody : Destination Nat where
  name := "moody"
  deliver _ count :=
    (⟨if count % 2 = 0 then .ok ⟨false, "not today"⟩
      else .error (.failed ⟨.value, [], some "elsewhere"⟩), []⟩, count + 1)

theorem moody_neverEnds : moody.NeverEnds := by
  intro rowSet count
  unfold moody
  dsimp only
  split <;> rfl

/-- A destination that refuses everything is handed the rows that a willing one gets. -/
theorem moody_destination_gets_same_rows :
    let generator : Generator Script :=
      ⟨Policy.default, ⟨2024, 2, 29, 13, 45, 7⟩, Script.source⟩
    let document : Text :=
      "CREATE TABLE `a` (`id` INT, `n` INT(3), PRIMARY KEY (`id`)) ENGINE=InnoDB;" ++
        "CREATE TABLE `b` (`id` INT, `m` CHAR(2), PRIMARY KEY (`id`)) ENGINE=InnoDB;"
    ∃ results otherResults final otherFinal,
      run ⟨generator, DryRun.destination, false⟩ document (.start [] ⟨#[5, 7], 0⟩ .still) =
        (.ok results, final) ∧
      run ⟨generator, moody, false⟩ document (.start 0 ⟨#[5, 7], 0⟩ .still) =
        (.ok otherResults, otherFinal) ∧
      results.length = otherResults.length ∧ final.delivered = otherFinal.delivered := by
  intro generator document
  rcases (destination_leaves_data_alone generator false DryRun.destination moody document
      (.start [] ⟨#[5, 7], 0⟩ .still) (.start 0 ⟨#[5, 7], 0⟩ .still) rfl).2.2.2
      (DryRun.neverEnds.answers _ _) (moody_neverEnds.answers _ _) with
    ⟨results, otherResults, final, otherFinal, ran, otherRan, delivered, otherDelivered, -, -, -,
      length, -⟩
  exact ⟨results, otherResults, final, otherFinal, ran, otherRan, length,
    delivered.trans otherDelivered.symm⟩

/-- A destination that fails with a number that is too long to be written is handed less than a
willing one, though it never says that it cannot be reached. -/
theorem unwritable_fault_stops_rows :
    let number : Nat := Nat.pow 10 Decimal.digitLimit
    let fault : Fault := .failed ⟨.value, [.integer number], none⟩
    let generator : Generator Script :=
      ⟨Policy.default, ⟨2024, 2, 29, 13, 45, 7⟩, Script.source⟩
    let document : Text :=
      "CREATE TABLE `a` (`id` INT, `n` INT(3), PRIMARY KEY (`id`)) ENGINE=InnoDB;" ++
        "CREATE TABLE `b` (`id` INT, `m` CHAR(2), PRIMARY KEY (`id`)) ENGINE=InnoDB;"
    let state : State Unit Script := .start () ⟨#[5, 7], 0⟩ .still
    let other : State DryRun.Statements Script := .start [] ⟨#[5, 7], 0⟩ .still
    let ended := run ⟨generator, failing fault, false⟩ document state
    let willing := run ⟨generator, DryRun.destination, false⟩ document other
    fault.isUnreachableDestination = false ∧ ended.1 = .error .numberTooLong ∧
      ended.2.delivered.length = 1 ∧ willing.1.isOk = true ∧
      willing.2.delivered.length = 2 := by
  intro number fault generator document state other ended willing
  have ends : fault.ending? = some .numberTooLong :=
    ending?_of_long (Decimal.isTooLong_natCast (Nat.le_refl _))
  have reachable : fault.isUnreachableDestination = false := rfl
  have planned : (readyRows (plan ⟨generator, DryRun.destination, false⟩ (Sql.segment document)
      other.random)).length = 2 := by
    decide +kernel
  clear_value fault document
  have ready : 0 < (readyRows (plan ⟨generator, failing fault, false⟩ (Sql.segment document)
      state.random)).length := by
    rw [plan_eq_plan generator false (failing fault) DryRun.destination]
    exact planned ▸ Nat.zero_lt_two
  rcases run_failing ends document state rfl ready with ⟨raised, delivered⟩
  rcases run_of_quiet ⟨generator, DryRun.destination, false⟩ document other
    (DryRun.neverEnds.answers _ _) with ⟨results, final, ran, -, standing⟩
  rcases State.fields_of_standing standing with ⟨-, -, all⟩
  have whole : willing = (.ok results, final) := ran
  rw [whole]
  exact ⟨reachable, raised, delivered, rfl, all ▸ planned⟩

end Filler

end SchemaSeed
