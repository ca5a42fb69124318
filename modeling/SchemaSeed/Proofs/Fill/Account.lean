import SchemaSeed.Fill.Run
import SchemaSeed.Proofs.Decimal.Natural
import SchemaSeed.Proofs.Fill.Ordinary
import SchemaSeed.Proofs.Lists
import SchemaSeed.Random.Scripted

/-! The account that a run gives.  What is prepared for a block depends on the text
and on the random source alone, so it can be said before the run which row sets a
document has to hand over and what the destination answers to them.  The run then
answers one result per block, in document order, hands over exactly those row sets,
and stops early only at an answer that the destination cannot be reached, or at a fault
whose text cannot be written. -/

namespace SchemaSeed

universe u v

namespace Destination

variable {Sink : Type u} (destination : Destination Sink)

/-- The answers to row sets that are handed over one after another. -/
def answers : List RowSet → Sink → List (Except Fault Outcome)
  | [], _ => []
  | rowSet :: rest, sink =>
      (destination.deliver rowSet.batch sink).1.outcome ::
        answers rest (destination.deliver rowSet.batch sink).2

/-- The sink once row sets were handed over one after another. -/
def sinkAfter (rowSets : List RowSet) (sink : Sink) : Sink :=
  rowSets.foldl (fun sink rowSet => (destination.deliver rowSet.batch sink).2) sink

/-- What a run is ended by at an answer, if it is ended by it. -/
def ending? : Except Fault Outcome → Option Fault
  | .ok _ => none
  | .error fault => fault.ending?

/-- The row sets up to the first whose answer ends a run. -/
def handedOver : List RowSet → Sink → List RowSet
  | [], _ => []
  | rowSet :: rest, sink =>
      rowSet ::
        match ending? (destination.deliver rowSet.batch sink).1.outcome with
        | some _ => []
        | none => handedOver rest (destination.deliver rowSet.batch sink).2

theorem length_answers (rowSets : List RowSet) (sink : Sink) :
    (destination.answers rowSets sink).length = rowSets.length := by
  induction rowSets generalizing sink with
  | nil => rfl
  | cons rowSet rest induction => simp [answers, induction]

/-- Either no answer ends a run, and everything is handed over, or there is a first one that
does. -/
theorem handedOver_cases (rowSets : List RowSet) (sink : Sink) :
    ((∀ answer ∈ destination.answers rowSets sink, ending? answer = none) ∧
      destination.handedOver rowSets sink = rowSets) ∨
    ∃ before answer later fault,
      destination.answers rowSets sink = before ++ answer :: later ∧
      (∀ answer ∈ before, ending? answer = none) ∧ ending? answer = some fault ∧
      destination.handedOver rowSets sink = rowSets.take (before.length + 1) := by
  induction rowSets generalizing sink with
  | nil => exact .inl ⟨by simp [answers], rfl⟩
  | cons rowSet rest induction =>
      simp only [answers, handedOver]
      rcases ends : ending? (destination.deliver rowSet.batch sink).1.outcome with _ | fault
      · rcases induction (destination.deliver rowSet.batch sink).2 with
          ⟨quiet, all⟩ | ⟨before, answer, later, fault, split, quiet, ended, some⟩
        · exact .inl ⟨List.forall_mem_cons.mpr ⟨ends, quiet⟩, congrArg _ all⟩
        · refine .inr
            ⟨_ :: before, answer, later, fault, congrArg _ split, ?_, ended, congrArg _ some⟩
          exact List.forall_mem_cons.mpr ⟨ends, quiet⟩
      · exact .inr ⟨[], _, _, fault, rfl, by simp, ends, rfl⟩

theorem handedOver_prefix (rowSets : List RowSet) (sink : Sink) :
    destination.handedOver rowSets sink <+: rowSets := by
  rcases destination.handedOver_cases rowSets sink with ⟨-, all⟩ | ⟨before, _, _, _, -, -, -, some⟩
  · exact ⟨[], by rw [List.append_nil, all]⟩
  · rw [some]
    exact List.take_prefix _ _

end Destination

namespace Filler

variable {Sink : Type u} {Random : Type v} (filler : Filler Sink Random)

/-! ## What a document has to hand over -/

/-- Reading the block, checking its columns and generating its rows: the table's
name, once it was read, and its row set or what went wrong. -/
def preparation (block : Text) (random : Random) : Preparation × Random :=
  match Table.parse block with
  | .error fault => (⟨none, .error fault⟩, random)
  | .ok table =>
      if filler.strict ∧ table.unsupported ≠ [] then
        (⟨some table.name,
          .error (.unsupportedColumns table.name (table.unsupported.map (·.name)))⟩, random)
      else
        let (rowSet, random) := filler.generator.rowSet table filler.policy.rowCount random
        (⟨some table.name, rowSet⟩, random)

/-- The preparations of all blocks, the random source passing from one to the next. -/
def plan : List Text → Random → List Preparation
  | [], _ => []
  | block :: rest, random =>
      (filler.preparation block random).1 :: plan rest (filler.preparation block random).2

def randomAfter (blocks : List Text) (random : Random) : Random :=
  blocks.foldl (fun random block => (filler.preparation block random).2) random

/-- The row sets of the blocks for which there is one. -/
def readyRows (plan : List Preparation) : List RowSet :=
  plan.filterMap (·.rowSet.toOption)

@[simp] theorem readyRows_unprepared (name : Option Text) (fault : Fault)
    (rest : List Preparation) :
    readyRows (⟨name, .error fault⟩ :: rest) = readyRows rest := rfl

@[simp] theorem readyRows_ready (name : Option Text) (rowSet : RowSet)
    (rest : List Preparation) :
    readyRows (⟨name, .ok rowSet⟩ :: rest) = rowSet :: readyRows rest := rfl

/-! ## What became of each block -/

structure Ending where
  number : Nat
  name : Option Text
  outcome : Except Fault Outcome

/-- A block without row set ends with its own fault, every other one with the next
answer of the destination. -/
def endings (number : Nat) : List Preparation → List (Except Fault Outcome) → List Ending
  | [], _ => []
  | ⟨name, .error fault⟩ :: rest, answers =>
      ⟨number, name, .error fault⟩ :: endings (number + 1) rest answers
  | ⟨_, .ok _⟩ :: _, [] => []
  | ⟨name, .ok _⟩ :: rest, answer :: answers =>
      ⟨number, name, answer⟩ :: endings (number + 1) rest answers

/-- The fault for which there is no row set does not end a run. -/
theorem ending?_of_preparation {block : Text} {random after : Random} {name : Option Text}
    {fault : Fault} (failed : filler.preparation block random = (⟨name, .error fault⟩, after)) :
    fault.ending? = none := by
  simp only [preparation] at failed
  cases parsed : Table.parse block with
  | error refusal =>
      simp only [parsed] at failed
      cases failed
      exact (Table.refusal_of_parse parsed).ending?
  | ok table =>
      simp only [parsed] at failed
      split at failed
      · cases failed
        rfl
      · rcases drawn : filler.generator.rowSet table filler.policy.rowCount random with
          ⟨rowSet, next⟩
        rw [drawn] at failed
        cases failed
        exact filler.generator.ending?_of_rowSet (Table.consistent_of_parse parsed) drawn

namespace Ending

def placeholder (ending : Ending) : Text :=
  "#" ++ Decimal.natural ending.number

/-- The name under which a table is reported; a fault may know it better. -/
def label (ending : Ending) : Text :=
  let known := ending.name.getD ending.placeholder
  match ending.outcome with
  | .error fault => fault.table?.getD known
  | .ok _ => known

def succeeds (ending : Ending) : Bool :=
  match ending.outcome with
  | .error _ => false
  | .ok outcome => outcome.success

def complaint (ending : Ending) : Option Text :=
  match ending.outcome with
  | .error fault => some fault.message
  | .ok outcome => if outcome.success then none else some outcome.detail

end Ending

/-- A result tells what became of a block.  The times it took are left open. -/
structure Reports (policy : Policy) (ending : Ending) (result : TableResult) : Prop where
  table : result.table = ending.label
  requested : result.requested = policy.rowCount
  written : result.written = if ending.succeeds then (policy.rowCount : Int) else 0
  mode : result.mode = policy.mode
  success : result.success = ending.succeeds
  error : result.error = ending.complaint

namespace Reports

variable {policy : Policy} {ending : Ending} {result : TableResult}

theorem success_iff_error_eq_none (reports : Reports policy ending result) :
    result.success = true ↔ result.error = none := by
  rw [reports.success, reports.error, Ending.succeeds, Ending.complaint]
  cases ending.outcome with
  | error fault => simp
  | ok outcome => cases outcome.success <;> simp

theorem success_iff_all_written (reports : Reports policy ending result) :
    result.success = true ↔ result.written = policy.rowCount := by
  have rowsRequested := policy.rowCount_pos
  rw [reports.success, reports.written]
  cases ending.succeeds with
  | false => simp; omega
  | true => simp

theorem nothing_written (reports : Reports policy ending result)
    (failed : result.success = false) : result.written = 0 := by
  have failed : ending.succeeds = false := reports.success.symm.trans failed
  simp [reports.written, failed]

end Reports

/-! ## One table

The filling of one table hands on the sink, the random source and the record of
what was delivered.  Messages, log records and the clock do not touch them. -/

structure Standing (Sink : Type u) (Random : Type v) where
  sink : Sink
  random : Random
  delivered : List RowSet

namespace State

variable (state : State Sink Random)

def standing : Standing Sink Random :=
  ⟨state.sink, state.random, state.delivered⟩

@[simp] theorem standing_tell (message : Text) :
    (state.tell message).standing = state.standing := rfl

@[simp] theorem standing_readClock : state.readClock.2.standing = state.standing := rfl

theorem fields_of_standing {state : State Sink Random} {sink : Sink} {random : Random}
    {delivered : List RowSet} (standing : state.standing = ⟨sink, random, delivered⟩) :
    state.sink = sink ∧ state.random = random ∧ state.delivered = delivered := by
  simpa [State.standing] using standing

end State

/-- Preparing a block says what its preparation is and moves the random source alone. -/
theorem prepare_eq (block : Text) (state : State Sink Random) :
    (filler.prepare block state).1 = (filler.preparation block state.random).1 ∧
      (filler.prepare block state).2.standing =
        { state.standing with random := (filler.preparation block state.random).2 } := by
  simp only [prepare, preparation, Table.parse]
  cases read : Reading.ofBlock block with
  | error fault => exact ⟨rfl, rfl⟩
  | ok reading =>
      cases unsupported : reading.table.unsupported with
      | nil => simp [Except.map, checkColumns, unsupported, State.log, State.standing]
      | cons column rest =>
          by_cases strict : filler.strict = true
          · simp [Except.map, checkColumns, unsupported, strict, State.log, State.standing]
          · simp [Except.map, checkColumns, unsupported, strict, State.log, State.warn, State.say,
              State.standing]

/-- How the filling of a table ends: a fault that ends the run is raised, every other outcome
gives a result. -/
inductive Settles (policy : Policy) (ending : Ending) : Except Fault TableResult → Prop
  | stopped {fault : Fault} (ends : Destination.ending? ending.outcome = some fault) :
      Settles policy ending (.error fault)
  | reported {result : TableResult} (quiet : Destination.ending? ending.outcome = none)
      (reports : Reports policy ending result) : Settles policy ending (.ok result)

theorem fail_settles (number : Nat) (name : Option Text) (fault : Fault) (seconds : Float)
    (state : State Sink Random) :
    Settles filler.policy ⟨number, name, .error fault⟩
      (filler.fail (name.getD ("#" ++ Decimal.natural number)) seconds fault state).1 := by
  cases unreachable : fault.isUnreachableDestination with
  | true =>
      have ends : fault.ending? = some fault := by simp only [Fault.ending?, unreachable, if_true]
      simp only [fail, unreachable, if_true]
      exact .stopped ends
  | false =>
      simp only [fail, unreachable, Bool.false_eq_true, if_false]
      cases written : fault.text with
      | error refusal =>
          exact .stopped (by
            simp only [Destination.ending?, Fault.ending?, unreachable, written, Bool.false_eq_true,
              if_false])
      | ok text =>
          have same := Fault.eq_message_of_text written
          refine .reported ?_ ⟨rfl, rfl, rfl, rfl, rfl, congrArg some same⟩
          simp only [Destination.ending?, Fault.ending?, unreachable, written, Bool.false_eq_true,
            if_false]

@[simp] theorem standing_fail (name : Text) (seconds : Float) (fault : Fault)
    (state : State Sink Random) :
    (filler.fail name seconds fault state).2.standing = state.standing := by
  simp only [fail]
  split
  · rfl
  · split <;> rfl

theorem conclude_reports (number : Nat) (name : Option Text) (outcome : Outcome)
    (seconds : Float) (insertion : Timing) (state : State Sink Random) :
    Reports filler.policy ⟨number, name, .ok outcome⟩
      (filler.conclude (name.getD ("#" ++ Decimal.natural number)) seconds insertion outcome
        state).1 where
  table := rfl
  requested := rfl
  written := rfl
  mode := rfl
  success := rfl
  error := rfl

@[simp] theorem standing_conclude (name : Text) (seconds : Float) (insertion : Timing)
    (outcome : Outcome) (state : State Sink Random) :
    (filler.conclude name seconds insertion outcome state).2.standing = state.standing := by
  simp only [conclude]
  cases outcome.success <;> cases outcome.detail.isEmpty <;> rfl

theorem deliver_fst (rowSet : RowSet) (state : State Sink Random) :
    (filler.deliver rowSet state).1 =
      (filler.destination.deliver rowSet.batch state.sink).1.outcome := rfl

@[simp] theorem standing_deliver (rowSet : RowSet) (state : State Sink Random) :
    (filler.deliver rowSet state).2.standing =
      ⟨(filler.destination.deliver rowSet.batch state.sink).2, state.random,
        state.delivered ++ [rowSet]⟩ := rfl

/-- The state in which the block of a table is read. -/
def begun (number : Nat) (state : State Sink Random) : State Sink Random :=
  (state.log (record Log.Level.info ("[TABLE START] " ++ ("#" ++ Decimal.natural number))
    [("iteration", .integer number)] none)).readClock.2

theorem prepare_begun (number : Nat) (block : Text) (state : State Sink Random)
    {preparation : Preparation} {random : Random}
    (prepared : filler.preparation block state.random = (preparation, random)) :
    ∃ between, filler.prepare block (begun number state) = (preparation, between) ∧
      between.standing = ⟨state.sink, random, state.delivered⟩ := by
  rcases filler.prepare_eq block (begun number state) with ⟨made, standing⟩
  rw [show (begun number state).random = state.random from rfl, prepared] at made standing
  exact ⟨_, Prod.ext made rfl, standing⟩

/-- A block without row set gives a failed result; the destination is not asked. -/
theorem fillTable_of_unprepared (number : Nat) (block : Text) (state : State Sink Random)
    {name : Option Text} {fault : Fault} {random : Random}
    (failed : filler.preparation block state.random = (⟨name, .error fault⟩, random)) :
    ∃ result final, filler.fillTable number block state = (.ok result, final) ∧
      Reports filler.policy ⟨number, name, .error fault⟩ result ∧
      final.standing = ⟨state.sink, random, state.delivered⟩ := by
  rcases filler.prepare_begun number block state failed with ⟨between, called, standing⟩
  have settles := filler.fail_settles number name fault 0 between.readClock.2
  have kept := filler.standing_fail (name.getD ("#" ++ Decimal.natural number)) 0 fault
    between.readClock.2
  rw [begun] at called
  simp only [fillTable, called]
  generalize filler.fail (name.getD ("#" ++ Decimal.natural number)) 0 fault
    between.readClock.2 = failure at settles kept
  rcases failure with ⟨ended, final⟩
  cases settles with
  | stopped ends => cases (filler.ending?_of_preparation failed).symm.trans ends
  | reported _ reports => exact ⟨_, final, rfl, reports, kept.trans (by simpa using standing)⟩

theorem fillTable_of_ready (number : Nat) (block : Text) (state : State Sink Random)
    {name : Option Text} {rowSet : RowSet} {random : Random}
    (ready : filler.preparation block state.random = (⟨name, .ok rowSet⟩, random)) :
    ∃ ended final, filler.fillTable number block state = (ended, final) ∧
      Settles filler.policy
        ⟨number, name, (filler.destination.deliver rowSet.batch state.sink).1.outcome⟩ ended ∧
      final.standing =
        ⟨(filler.destination.deliver rowSet.batch state.sink).2, random,
          state.delivered ++ [rowSet]⟩ := by
  rcases filler.prepare_begun number block state ready with ⟨between, called, standing⟩
  rw [begun] at called
  simp only [fillTable, called]
  generalize toldOf : State.tell _ between.readClock.2 = told
  have toldStanding : told.readClock.2.standing = ⟨state.sink, random, state.delivered⟩ := by
    simpa [← toldOf] using standing
  rcases State.fields_of_standing toldStanding with ⟨sameSink, sameRandom, sameDelivered⟩
  have answer := filler.deliver_fst rowSet told.readClock.2
  have afterStanding := filler.standing_deliver rowSet told.readClock.2
  rw [sameSink] at answer
  rw [sameSink, sameRandom, sameDelivered] at afterStanding
  generalize filler.deliver rowSet told.readClock.2 = delivery at answer afterStanding ⊢
  rcases delivery with ⟨outcome, after⟩
  rw [← answer]
  cases outcome with
  | ok outcome =>
      refine ⟨_, _, rfl, .reported rfl (filler.conclude_reports number name outcome _ _ _), ?_⟩
      simpa using afterStanding
  | error fault =>
      exact ⟨_, _, (Prod.eta _).symm, filler.fail_settles number name fault _ _,
        (filler.standing_fail _ _ _ _).trans (by simpa using afterStanding)⟩

/-! ## All tables -/

/-- The answers to all the row sets that blocks have to hand over. -/
def answersTo (blocks : List Text) (random : Random) (sink : Sink) :
    List (Except Fault Outcome) :=
  filler.destination.answers (readyRows (filler.plan blocks random)) sink

section Prepared

variable {block : Text} {random after : Random} {name : Option Text} (rest : List Text)

theorem plan_of_prepared {rowSet : Except Fault RowSet}
    (prepared : filler.preparation block random = (⟨name, rowSet⟩, after)) :
    filler.plan (block :: rest) random = ⟨name, rowSet⟩ :: filler.plan rest after := by
  simp only [plan, prepared]

theorem readyRows_of_unprepared {fault : Fault}
    (failed : filler.preparation block random = (⟨name, .error fault⟩, after)) :
    readyRows (filler.plan (block :: rest) random) = readyRows (filler.plan rest after) := by
  rw [filler.plan_of_prepared rest failed, readyRows_unprepared]

theorem readyRows_of_ready {rowSet : RowSet}
    (ready : filler.preparation block random = (⟨name, .ok rowSet⟩, after)) :
    readyRows (filler.plan (block :: rest) random) =
      rowSet :: readyRows (filler.plan rest after) := by
  rw [filler.plan_of_prepared rest ready, readyRows_ready]

theorem answersTo_of_unprepared {fault : Fault}
    (failed : filler.preparation block random = (⟨name, .error fault⟩, after)) (sink : Sink) :
    filler.answersTo (block :: rest) random sink = filler.answersTo rest after sink := by
  rw [answersTo, filler.readyRows_of_unprepared rest failed, ← answersTo]

theorem answersTo_of_ready {rowSet : RowSet}
    (ready : filler.preparation block random = (⟨name, .ok rowSet⟩, after)) (sink : Sink) :
    filler.answersTo (block :: rest) random sink =
      (filler.destination.deliver rowSet.batch sink).1.outcome ::
        filler.answersTo rest after (filler.destination.deliver rowSet.batch sink).2 := by
  rw [answersTo, filler.readyRows_of_ready rest ready, Destination.answers, ← answersTo]

end Prepared

/-- As long as no answer ends the run, every block gets its result and every row set is
handed over. -/
theorem fillTables_of_quiet (number : Nat) (blocks : List Text) (state : State Sink Random)
    (quiet : ∀ answer ∈ filler.answersTo blocks state.random state.sink,
      Destination.ending? answer = none) :
    ∃ results final, filler.fillTables number blocks state = (.ok results, final) ∧
      List.Forall₂ (Reports filler.policy)
        (endings number (filler.plan blocks state.random)
          (filler.answersTo blocks state.random state.sink)) results ∧
      final.standing =
        ⟨filler.destination.sinkAfter (readyRows (filler.plan blocks state.random)) state.sink,
          filler.randomAfter blocks state.random,
          state.delivered ++ readyRows (filler.plan blocks state.random)⟩ := by
  induction blocks generalizing number state with
  | nil => exact ⟨[], state, rfl, .nil, by simp [plan, readyRows]; rfl⟩
  | cons block rest induction =>
      rcases prepared : filler.preparation block state.random with ⟨⟨name, rowSet⟩, random⟩
      cases rowSet with
      | error fault =>
          rcases filler.fillTable_of_unprepared number block state prepared with
            ⟨result, next, filled, reports, standing⟩
          rcases State.fields_of_standing standing with ⟨sink, source, delivered⟩
          rw [filler.answersTo_of_unprepared rest prepared] at quiet
          have filledRest := induction (number + 1) next
          rw [sink, source, delivered] at filledRest
          rcases filledRest quiet with ⟨results, final, filledRest, reportsRest, standingRest⟩
          refine ⟨result :: results, final, ?_, ?_, ?_⟩
          · simp only [fillTables, filled, filledRest]
          · rw [filler.plan_of_prepared rest prepared,
              filler.answersTo_of_unprepared rest prepared]
            exact .cons reports reportsRest
          · rw [filler.readyRows_of_unprepared rest prepared, standingRest]
            simp [randomAfter, prepared]
      | ok rowSet =>
          rcases filler.fillTable_of_ready number block state prepared with
            ⟨ended, next, filled, settles, standing⟩
          rw [filler.answersTo_of_ready rest prepared] at quiet
          have answered := quiet _ List.mem_cons_self
          cases settles with
          | stopped ends => cases answered.symm.trans ends
          | @reported result _ reports =>
              rcases State.fields_of_standing standing with ⟨sink, source, delivered⟩
              have filledRest := induction (number + 1) next
              rw [sink, source, delivered] at filledRest
              rcases filledRest fun answer member => quiet answer (List.mem_cons_of_mem _
                    member) with ⟨results, final, filledRest, reportsRest, standingRest⟩
              refine ⟨result :: results, final, ?_, ?_, ?_⟩
              · simp only [fillTables, filled, filledRest]
              · rw [filler.plan_of_prepared rest prepared,
                  filler.answersTo_of_ready rest prepared]
                exact .cons reports reportsRest
              · rw [filler.readyRows_of_ready rest prepared, standingRest]
                simp [randomAfter, prepared, Destination.sinkAfter]

/-- The first answer that ends the run does so at once: that row set was the last one handed
over. -/
theorem fillTables_of_ended (number : Nat) (blocks : List Text)
    (state : State Sink Random) {before later : List (Except Fault Outcome)}
    {answer : Except Fault Outcome} {fault : Fault}
    (answered : filler.answersTo blocks state.random state.sink = before ++ answer :: later)
    (quiet : ∀ answer ∈ before, Destination.ending? answer = none)
    (ends : Destination.ending? answer = some fault) :
    ∃ final, filler.fillTables number blocks state = (.error fault, final) ∧
      final.delivered = state.delivered ++
        (readyRows (filler.plan blocks state.random)).take (before.length + 1) ∧
      final.sink = filler.destination.sinkAfter
        ((readyRows (filler.plan blocks state.random)).take (before.length + 1)) state.sink := by
  induction blocks generalizing number state before with
  | nil => simp [answersTo, plan, readyRows, Destination.answers] at answered
  | cons block rest induction =>
      rcases prepared : filler.preparation block state.random with ⟨⟨name, rowSet⟩, random⟩
      cases rowSet with
      | error failure =>
          rcases filler.fillTable_of_unprepared number block state prepared with
            ⟨result, next, filled, reports, standing⟩
          rcases State.fields_of_standing standing with ⟨sink, source, delivered⟩
          rw [filler.answersTo_of_unprepared rest prepared] at answered
          have filledRest := @induction (number + 1) next before
          rw [sink, source, delivered] at filledRest
          rcases filledRest answered quiet with ⟨final, filledRest, deliveredRest, sinkRest⟩
          rw [filler.readyRows_of_unprepared rest prepared]
          exact ⟨final, by simp only [fillTables, filled, filledRest], deliveredRest, sinkRest⟩
      | ok rowSet =>
          rcases filler.fillTable_of_ready number block state prepared with
            ⟨ended, next, filled, settles, standing⟩
          rcases State.fields_of_standing standing with ⟨sink, source, delivered⟩
          rw [filler.answersTo_of_ready rest prepared] at answered
          rw [filler.readyRows_of_ready rest prepared]
          cases before with
          | nil =>
              rcases List.cons_eq_cons.mp answered with ⟨rfl, -⟩
              cases settles with
              | stopped same =>
                  cases ends.symm.trans same
                  exact ⟨next, by simp only [fillTables, filled], delivered, sink⟩
              | reported unended _ => cases unended.symm.trans ends
          | cons first before =>
              rcases List.cons_eq_cons.mp answered with ⟨rfl, answeredRest⟩
              have unended := quiet _ List.mem_cons_self
              cases settles with
              | stopped same => cases unended.symm.trans same
              | @reported result _ reports =>
                  have filledRest := @induction (number + 1) next before
                  rw [sink, source, delivered] at filledRest
                  rcases filledRest answeredRest fun answer member => quiet answer
                        (List.mem_cons_of_mem _ member) with
                      ⟨final, filledRest, deliveredRest, sinkRest⟩
                  refine ⟨final, by simp only [fillTables, filled, filledRest], ?_, ?_⟩
                  · simp [deliveredRest]
                  · simpa [Destination.sinkAfter] using sinkRest

theorem length_endings (number : Nat) (plan : List Preparation)
    (answers : List (Except Fault Outcome)) (enough : answers.length = (readyRows plan).length) :
    (endings number plan answers).length = plan.length := by
  induction plan generalizing number answers with
  | nil => rfl
  | cons preparation rest induction =>
      rcases preparation with ⟨name, rowSet⟩
      cases rowSet with
      | error fault => simp [endings, induction (number + 1) answers enough]
      | ok rowSet =>
          cases answers with
          | nil => simp at enough
          | cons answer answers =>
              have enough : answers.length = (readyRows rest).length := by
                simpa using enough
              simp [endings, induction (number + 1) answers enough]

theorem length_plan (blocks : List Text) (random : Random) :
    (filler.plan blocks random).length = blocks.length := by
  induction blocks generalizing random with
  | nil => rfl
  | cons block rest induction => simp [plan, induction]

/-! ## The run -/

/-- The state in which a run takes up its first block. -/
def opened (document : Text) (state : State Sink Random) : State Sink Random :=
  (state.logAll ((Sql.blocks document).filterMap (·.record?))).log
    (filler.announce (Sql.blocks document).length)

theorem run_eq (document : Text) (state : State Sink Random) :
    filler.run document state =
      match filler.fillTables 1 (Sql.segment document) (filler.opened document state) with
      | (.error fault, final) => (.error fault, final)
      | (.ok results, final) => (.ok results, final.log (summarize results)) := rfl

theorem run_of_quiet (document : Text) (state : State Sink Random)
    (quiet : ∀ answer ∈ filler.answersTo (Sql.segment document) state.random state.sink,
      Destination.ending? answer = none) :
    ∃ results final, filler.run document state = (.ok results, final) ∧
      List.Forall₂ (Reports filler.policy)
        (endings 1 (filler.plan (Sql.segment document) state.random)
          (filler.answersTo (Sql.segment document) state.random state.sink)) results ∧
      final.standing =
        ⟨filler.destination.sinkAfter
            (readyRows (filler.plan (Sql.segment document) state.random)) state.sink,
          filler.randomAfter (Sql.segment document) state.random,
          state.delivered ++ readyRows (filler.plan (Sql.segment document) state.random)⟩ := by
  rcases filler.fillTables_of_quiet 1 (Sql.segment document) (filler.opened document state)
        quiet with ⟨results, last, filled, reports, standing⟩
  refine ⟨results, last.log (summarize results), ?_, reports, standing⟩
  rw [run_eq, filled]

theorem run_of_ended (document : Text) (state : State Sink Random)
    {before later : List (Except Fault Outcome)} {answer : Except Fault Outcome} {fault : Fault}
    (answered : filler.answersTo (Sql.segment document) state.random state.sink =
      before ++ answer :: later)
    (quiet : ∀ answer ∈ before, Destination.ending? answer = none)
    (ends : Destination.ending? answer = some fault) :
    ∃ final, filler.run document state = (.error fault, final) ∧
      final.delivered = state.delivered ++
        (readyRows (filler.plan (Sql.segment document) state.random)).take (before.length + 1) ∧
      final.sink = filler.destination.sinkAfter
        ((readyRows (filler.plan (Sql.segment document) state.random)).take (before.length + 1))
        state.sink := by
  rcases filler.fillTables_of_ended 1 (Sql.segment document) (filler.opened document state)
    answered quiet ends with ⟨last, stopped, delivered, sink⟩
  refine ⟨last, ?_, delivered, sink⟩
  rw [run_eq, stopped]

/-- However a run ends, it has handed over the row sets up to the first answer that ends it. -/
theorem run_hands_over (document : Text) (state : State Sink Random) :
    let rowSets := readyRows (filler.plan (Sql.segment document) state.random)
    let handed := filler.destination.handedOver rowSets state.sink
    (filler.run document state).2.delivered = state.delivered ++ handed ∧
      (filler.run document state).2.sink = filler.destination.sinkAfter handed state.sink := by
  intro rowSets handed
  rcases filler.destination.handedOver_cases rowSets state.sink with
    ⟨quiet, all⟩ | ⟨before, answer, later, fault, answered, quiet, ends, some⟩
  · rcases filler.run_of_quiet document state quiet with ⟨results, final, ran, -, standing⟩
    rcases State.fields_of_standing standing with ⟨sink, -, delivered⟩
    rw [ran]
    simp only [handed, all]
    exact ⟨delivered, sink⟩
  · rcases filler.run_of_ended document state answered quiet ends with
      ⟨final, ran, delivered, sink⟩
    rw [ran]
    simp only [handed, some]
    exact ⟨delivered, sink⟩

/-- A run raises what the first answer that ends it is ended by, and nothing else. -/
theorem run_eq_error_iff (document : Text) (state : State Sink Random) (fault : Fault) :
    (filler.run document state).1 = .error fault ↔
      (filler.answersTo (Sql.segment document) state.random state.sink).findSome?
        Destination.ending? = some fault := by
  rcases filler.destination.handedOver_cases
      (readyRows (filler.plan (Sql.segment document) state.random)) state.sink with
    ⟨quiet, -⟩ | ⟨before, answer, later, raised, answered, quiet, ends, -⟩
  · rcases filler.run_of_quiet document state quiet with ⟨results, final, ran, -, -⟩
    rw [ran, answersTo, List.findSome?_eq_none_iff.mpr quiet]
    exact iff_of_false (by rintro ⟨⟩) (by rintro ⟨⟩)
  · rcases filler.run_of_ended document state answered quiet ends with ⟨final, ran, -, -⟩
    rw [ran, answersTo, answered, List.findSome?_append, List.findSome?_eq_none_iff.mpr quiet,
      List.findSome?_cons, ends]
    exact ⟨fun same => congrArg some (Except.error.inj same),
      fun same => congrArg Except.error (Option.some.inj same)⟩

theorem quiet_of_run_ok {document : Text} {state final : State Sink Random}
    {results : List TableResult} (ran : filler.run document state = (.ok results, final)) :
    ∀ answer ∈ filler.answersTo (Sql.segment document) state.random state.sink,
      Destination.ending? answer = none := by
  rw [← List.findSome?_eq_none_iff, Option.eq_none_iff_forall_ne_some]
  intro fault found
  rw [← run_eq_error_iff, ran] at found
  cases found

/-- Every block of a document gets one result, in document order, whatever goes wrong
with single tables; the row sets handed over are exactly those that could be prepared,
each once and in order.  Only a destination that cannot be reached, or one that raises a
fault whose text cannot be written, ends a run before its last block. -/
theorem run_accounts_for_every_table (document : Text) (state : State Sink Random) :
    let blocks := Sql.segment document
    let plan := filler.plan blocks state.random
    let answers := filler.answersTo blocks state.random state.sink
    let ended := (filler.run document state).1
    let final := (filler.run document state).2
    ((∀ answer ∈ answers, Destination.ending? answer = none) →
      ∃ results, ended = .ok results ∧
        results.length = blocks.length ∧
        List.Forall₂ (Reports filler.policy) (endings 1 plan answers) results ∧
        (∀ result ∈ results, result.requested = filler.policy.rowCount ∧
          (result.success = true ↔ result.error = none) ∧
          (result.success = true ↔ result.written = filler.policy.rowCount) ∧
          (result.success = false → result.written = 0)) ∧
        final.delivered = state.delivered ++ readyRows plan ∧
        final.sink = filler.destination.sinkAfter (readyRows plan) state.sink) ∧
    (∀ before answer later fault, answers = before ++ answer :: later →
      (∀ answer ∈ before, Destination.ending? answer = none) →
      Destination.ending? answer = some fault →
        ended = .error fault ∧
        final.delivered = state.delivered ++ (readyRows plan).take (before.length + 1) ∧
        final.sink = filler.destination.sinkAfter
          ((readyRows plan).take (before.length + 1)) state.sink) := by
  intro blocks plan answers ended final
  constructor
  · intro quiet
    rcases filler.run_of_quiet document state quiet with ⟨results, last, ran, reports, standing⟩
    have count : results.length = blocks.length := by
      rw [← reports.length_eq, length_endings, length_plan]
      exact Destination.length_answers _ _ _
    refine ⟨results, ?_, count, reports, ?_, ?_, ?_⟩
    · exact congrArg Prod.fst ran
    · intro result member
      rcases exists_of_mem_right reports member with ⟨ending, -, reported⟩
      exact ⟨reported.requested, reported.success_iff_error_eq_none,
        reported.success_iff_all_written, reported.nothing_written⟩
    · exact congrArg (·.2.delivered) ran |>.trans (congrArg Standing.delivered standing)
    · exact congrArg (·.2.sink) ran |>.trans (congrArg Standing.sink standing)
  · intro before answer later fault answered quiet ends
    rcases filler.run_of_ended document state answered quiet ends with
      ⟨last, ran, delivered, sink⟩
    exact ⟨congrArg Prod.fst ran, (congrArg (·.2.delivered) ran).trans delivered,
      (congrArg (·.2.sink) ran).trans sink⟩

/-! ## A fault that cannot be written -/

/-- A failure with a number of too many digits ends a run with that complaint. -/
theorem ending?_of_long {number : Int} (long : Decimal.isTooLong number = true) :
    (Fault.failed ⟨.value, [.integer number], none⟩).ending? = some .numberTooLong := by
  have unwritable : (Failure.isWritable ⟨.value, [.integer number], none⟩) = false := by
    simp [Failure.isWritable, Datum.areWritable, Datum.isWritable, long]
  simp only [Fault.ending?, Fault.text_of_unwritable unwritable, Fault.isUnreachableDestination]
  rfl

/-- A destination that always fails in the same way. -/
def failing (fault : Fault) : Destination Unit where
  name := "failing"
  deliver _ sink := (⟨.error fault, []⟩, sink)

/-- If there are rows to hand over, the first of them are all that such a destination gets. -/
theorem run_failing {generator : Generator Random} {strict : Bool} {fault raised : Fault}
    (ends : fault.ending? = some raised) (document : Text) (state : State Unit Random)
    (fresh : state.delivered = []) (ready : 0 < (readyRows
      (plan ⟨generator, failing fault, strict⟩ (Sql.segment document) state.random)).length) :
    (run ⟨generator, failing fault, strict⟩ document state).1 = .error raised ∧
      (run ⟨generator, failing fault, strict⟩ document state).2.delivered.length = 1 := by
  rcases List.exists_cons_of_length_pos ready with ⟨first, rest, planned⟩
  have answered : answersTo ⟨generator, failing fault, strict⟩ (Sql.segment document) state.random
      state.sink = [] ++ .error fault :: (failing fault).answers rest () := by
    rw [answersTo, planned]
    rfl
  rcases run_of_ended _ document state answered (by simp) ends with ⟨final, ran, delivered, -⟩
  simp [ran, delivered, planned, fresh]

/-- The destination never says that it cannot be reached, but fails with a number that is too
long to be written.  The run ends at its first table, with an error of its own. -/
theorem unwritable_fault_ends_run :
    let number : Nat := Nat.pow 10 Decimal.digitLimit
    let fault : Fault := .failed ⟨.value, [.integer number], none⟩
    let filler : Filler Unit Script :=
      ⟨⟨Policy.default, ⟨2024, 2, 29, 13, 45, 7⟩, Script.source⟩, failing fault, false⟩
    let document : Text :=
      "CREATE TABLE `a` (`id` INT, `n` TINYINT, PRIMARY KEY (`id`)) ENGINE=InnoDB;" ++
        "CREATE TABLE `b` (`id` INT, `n` TINYINT, PRIMARY KEY (`id`)) ENGINE=InnoDB;"
    let state : State Unit Script := .start () ⟨#[0], 0⟩ .still
    let ended := filler.run document state
    fault.isUnreachableDestination = false ∧ (Sql.segment document).length = 2 ∧
      ended.1 = .error .numberTooLong ∧ ended.2.delivered.length = 1 := by
  intro number fault filler document state ended
  have ends : fault.ending? = some .numberTooLong :=
    ending?_of_long (Decimal.isTooLong_natCast (Nat.le_refl _))
  have reachable : fault.isUnreachableDestination = false := rfl
  have ready : 0 < (readyRows (filler.plan (Sql.segment document) state.random)).length := by
    decide +kernel
  clear_value fault
  have two : (Sql.segment document).length = 2 := by decide
  clear_value document
  rcases run_failing ends document state rfl ready with ⟨raised, delivered⟩
  exact ⟨reachable, two, raised, delivered⟩

end Filler

end SchemaSeed
