import SchemaSeed.Destination.DryRun
import SchemaSeed.Proofs.Fill.Account
import SchemaSeed.Proofs.Sql.Segment
import SchemaSeed.Random.Scripted

/-! A broken table and its neighbours.  A block that cannot be read, or whose columns are
refused, draws nothing from the random source and hands nothing over.  Taking it out of
a document therefore changes neither what the other tables hand over nor their results,
apart from times and from the number that stands for a table without name. -/

namespace SchemaSeed

universe u v

namespace Destination

variable {Sink : Type u} (destination : Destination Sink)

theorem answers_append (first second : List RowSet) (sink : Sink) :
    destination.answers (first ++ second) sink =
      destination.answers first sink ++
        destination.answers second (destination.sinkAfter first sink) := by
  induction first generalizing sink with
  | nil => rfl
  | cons rowSet rest induction =>
      simp only [List.cons_append, answers, induction]
      rfl

end Destination

namespace Filler

variable {Sink : Type u} {Random : Type v} (filler : Filler Sink Random)

/-! ## Plans and endings in parts -/

theorem plan_append (first second : List Text) (random : Random) :
    filler.plan (first ++ second) random =
      filler.plan first random ++ filler.plan second (filler.randomAfter first random) := by
  induction first generalizing random with
  | nil => rfl
  | cons block rest induction =>
      simp only [List.cons_append, plan, induction]
      rfl

theorem readyRows_append (first second : List Preparation) :
    readyRows (first ++ second) = readyRows first ++ readyRows second := by
  simp [readyRows]

theorem endings_append (number : Nat) (first second : List Preparation)
    (answers later : List (Except Fault Outcome))
    (enough : answers.length = (readyRows first).length) :
    endings number (first ++ second) (answers ++ later) =
      endings number first answers ++ endings (number + first.length) second later := by
  induction first generalizing number answers with
  | nil =>
      have empty : answers = [] := List.length_eq_zero_iff.mp enough
      subst empty
      rfl
  | cons preparation rest induction =>
      rcases preparation with ⟨name, rowSet⟩
      cases rowSet with
      | error fault =>
          simp [endings, induction (number + 1) answers enough, Nat.add_assoc, Nat.add_comm 1]
      | ok rowSet =>
          cases answers with
          | nil => simp at enough
          | cons answer answers =>
              have enough : answers.length = (readyRows rest).length := by simpa using enough
              simp [endings, induction (number + 1) answers enough, Nat.add_assoc,
                Nat.add_comm 1]

/-- The same ending of a block that stands one place further back. -/
def Ending.later (ending : Ending) : Ending :=
  { ending with number := ending.number + 1 }

theorem endings_later (number : Nat) (plan : List Preparation)
    (answers : List (Except Fault Outcome)) :
    endings (number + 1) plan answers = (endings number plan answers).map Ending.later := by
  induction plan generalizing number answers with
  | nil => rfl
  | cons preparation rest induction =>
      rcases preparation with ⟨name, rowSet⟩
      cases rowSet with
      | error fault => simp [endings, induction, Ending.later]
      | ok rowSet =>
          cases answers with
          | nil => rfl
          | cons answer answers => simp [endings, induction, Ending.later]

/-! ## Blocks that fail early -/

/-- A block that cannot be read, or that has columns which are refused. -/
def Broken (block : Text) : Prop :=
  (∃ fault, Table.parse block = .error fault) ∨
    filler.strict = true ∧ ∃ table, Table.parse block = .ok table ∧ table.unsupported ≠ []

instance (block : Text) : Decidable (filler.Broken block) :=
  match parsed : Table.parse block with
  | .error fault => isTrue (.inl ⟨fault, parsed⟩)
  | .ok table =>
      decidable_of_iff (filler.strict = true ∧ table.unsupported ≠ []) <| by
        simp [Broken, parsed]

/-- A broken block gives no row set and leaves the random source alone. -/
theorem preparation_of_broken {block : Text} (broken : filler.Broken block) (random : Random) :
    ∃ name fault, filler.preparation block random = (⟨name, .error fault⟩, random) := by
  rcases broken with ⟨fault, unread⟩ | ⟨strict, table, read, unsupported⟩
  · exact ⟨none, fault, by simp only [preparation, unread]⟩
  · exact ⟨some table.name, _, by
      simp only [preparation, read]
      rw [if_pos ⟨strict, unsupported⟩]⟩

/-- A broken block adds one failed preparation to a plan and changes nothing else. -/
theorem plan_around_broken {block : Text} (broken : filler.Broken block)
    (first second : List Text) (random : Random) :
    (∃ name fault, filler.plan (first ++ block :: second) random =
      filler.plan first random ++
        ⟨name, .error fault⟩ :: filler.plan second (filler.randomAfter first random)) ∧
    filler.randomAfter (first ++ block :: second) random =
      filler.randomAfter (first ++ second) random := by
  rcases filler.preparation_of_broken broken (filler.randomAfter first random) with
    ⟨name, fault, prepared⟩
  constructor
  · refine ⟨name, fault, ?_⟩
    rw [plan_append, filler.plan_of_prepared second prepared]
  · simp only [randomAfter, List.foldl_append, List.foldl_cons] at prepared ⊢
    rw [prepared]

theorem readyRows_around_broken {block : Text} (broken : filler.Broken block)
    (first second : List Text) (random : Random) :
    readyRows (filler.plan (first ++ block :: second) random) =
      readyRows (filler.plan (first ++ second) random) := by
  rcases filler.plan_around_broken broken first second random with ⟨⟨name, fault, planned⟩, -⟩
  rw [planned, plan_append, readyRows_append, readyRows_append, readyRows_unprepared]

/-- A table that fails before its name is known. -/
def FailsUnnamed (block : Text) : Prop :=
  ∃ fault, Table.parse block = .error fault ∧ fault.table? = none

/-- If the ending bears no name, it is that of a block that could not be read. -/
def NamedOrUnread (block : Text) (ending : Ending) : Prop :=
  ending.name = none →
    ∃ fault, Table.parse block = .error fault ∧ ending.outcome = .error fault

/-- Only a block that cannot be read ends without a name. -/
theorem endings_without_name (number : Nat) (blocks : List Text) (random : Random)
    (answers : List (Except Fault Outcome))
    (enough : answers.length = (readyRows (filler.plan blocks random)).length) :
    List.Forall₂ NamedOrUnread blocks
      (endings number (filler.plan blocks random) answers) := by
  induction blocks generalizing number random answers with
  | nil => exact .nil
  | cons block rest induction =>
      rcases prepared : filler.preparation block random with ⟨⟨name, rowSet⟩, next⟩
      rw [filler.plan_of_prepared rest prepared] at enough ⊢
      have unread : name = none → ∃ fault, Table.parse block = .error fault ∧
          rowSet = .error fault := by
        rintro rfl
        simp only [preparation] at prepared
        split at prepared
        · rename_i fault failed
          cases prepared
          exact ⟨fault, failed, rfl⟩
        · split at prepared <;> cases prepared
      cases rowSet with
      | error fault =>
          refine .cons ?_ (induction (number + 1) next answers enough)
          intro unnamed
          rcases unread unnamed with ⟨found, failed, equal⟩
          cases equal
          exact ⟨fault, failed, rfl⟩
      | ok rowSet =>
          cases answers with
          | nil => simp at enough
          | cons answer answers =>
              refine .cons ?_ (induction (number + 1) next answers (by simpa using enough))
              intro unnamed
              rcases unread unnamed with ⟨found, failed, equal⟩
              cases equal

/-- A broken block ends by itself; the endings behind it count one further. -/
theorem endings_around_broken {block : Text} (broken : filler.Broken block)
    (first second : List Text) (random : Random) (sink : Sink) :
    ∃ front name fault back,
      endings 1 (filler.plan (first ++ block :: second) random)
          (filler.answersTo (first ++ block :: second) random sink) =
        front ++ ⟨1 + first.length, name, .error fault⟩ :: back.map Ending.later ∧
      endings 1 (filler.plan (first ++ second) random)
          (filler.answersTo (first ++ second) random sink) = front ++ back ∧
      front.length = first.length ∧ List.Forall₂ NamedOrUnread second back := by
  rcases filler.plan_around_broken broken first second random with ⟨⟨name, fault, planned⟩, -⟩
  have rows := filler.readyRows_around_broken broken first second random
  -- The answers fall into those before and those behind the broken block.
  have answers := filler.destination.answers_append (readyRows (filler.plan first random))
    (readyRows (filler.plan second (filler.randomAfter first random))) sink
  have enough := filler.destination.length_answers (readyRows (filler.plan first random)) sink
  have enoughLater := filler.destination.length_answers
    (readyRows (filler.plan second (filler.randomAfter first random)))
    (filler.destination.sinkAfter (readyRows (filler.plan first random)) sink)
  refine ⟨endings 1 (filler.plan first random) (filler.destination.answers
      (readyRows (filler.plan first random)) sink), name, fault, _, ?_, ?_, ?_,
    filler.endings_without_name (1 + first.length) second _ _ enoughLater⟩
  · rw [planned, answersTo, rows, plan_append, readyRows_append, answers,
      endings_append 1 _ _ _ _ enough, endings,
      length_plan, endings_later (1 + first.length)]
  · rw [answersTo, plan_append, readyRows_append, answers, endings_append 1 _ _ _ _ enough,
      length_plan]
  · rw [length_endings _ _ _ enough, length_plan]

/-! ## Results that agree -/

/-- Two results agree in everything but the name of the table and the times it took. -/
structure Alike (result other : TableResult) : Prop where
  requested : result.requested = other.requested
  written : result.written = other.written
  mode : result.mode = other.mode
  success : result.success = other.success
  error : result.error = other.error

/-- The results of one block at two places of a document: they agree, and the names
differ at most in the number of a table that was never named. -/
def AlikeFor (block : Text) (result other : TableResult) : Prop :=
  Alike result other ∧
    (result.table = other.table ∨
      FailsUnnamed block ∧ ∃ number, result.table = "#" ++ Decimal.natural (number + 1) ∧
        other.table = "#" ++ Decimal.natural number)

theorem alike_of_reports {policy : Policy} {ending otherEnding : Ending}
    {result other : TableResult} (reports : Reports policy ending result)
    (otherReports : Reports policy otherEnding other)
    (same : ending.outcome = otherEnding.outcome) : Alike result other := by
  have succeeds : ending.succeeds = otherEnding.succeeds := by
    simp only [Ending.succeeds, same]
  have complaint : ending.complaint = otherEnding.complaint := by
    simp only [Ending.complaint, same]
  constructor
  · rw [reports.requested, otherReports.requested]
  · rw [reports.written, otherReports.written, succeeds]
  · rw [reports.mode, otherReports.mode]
  · rw [reports.success, otherReports.success, succeeds]
  · rw [reports.error, otherReports.error, complaint]

theorem alikeFor_of_reports {policy : Policy} {block : Text} {ending : Ending}
    {result other : TableResult}
    (origin : NamedOrUnread block ending)
    (reports : Reports policy ending.later result)
    (otherReports : Reports policy ending other) : AlikeFor block result other := by
  refine ⟨alike_of_reports reports otherReports rfl, ?_⟩
  rw [reports.table, otherReports.table]
  rcases ending with ⟨number, name, outcome⟩
  cases name with
  | some name => exact .inl rfl
  | none =>
      rcases origin rfl with ⟨fault, failed, rfl⟩
      cases named : fault.table? with
      | some name => exact .inl (by simp [Ending.label, Ending.later, named])
      | none =>
          exact .inr ⟨⟨fault, failed, named⟩, number,
            by simp [Ending.label, Ending.later, Ending.placeholder, named],
            by simp [Ending.label, Ending.placeholder, named]⟩

theorem alikeFor_zip {policy : Policy} {blocks : List Text} {endings : List Ending}
    {results others : List TableResult}
    (origins : List.Forall₂ NamedOrUnread blocks endings)
    (reports : List.Forall₂ (Reports policy) (endings.map Ending.later) results)
    (otherReports : List.Forall₂ (Reports policy) endings others) :
    results.length = others.length ∧
      List.Forall₂ (fun block (pair : TableResult × TableResult) => AlikeFor block pair.1 pair.2)
        blocks (results.zip others) := by
  induction origins generalizing results others with
  | nil =>
      cases reports
      cases otherReports
      exact ⟨rfl, .nil⟩
  | cons origin rest induction =>
      cases reports with
      | cons reported reportedRest =>
          cases otherReports with
          | cons otherReported otherRest =>
              rcases induction reportedRest otherRest with ⟨length, alike⟩
              exact ⟨congrArg Nat.succ length,
                .cons (alikeFor_of_reports origin reported otherReported) alike⟩

theorem alike_zip {policy : Policy} {endings : List Ending} {results others : List TableResult}
    (reports : List.Forall₂ (Reports policy) endings results)
    (otherReports : List.Forall₂ (Reports policy) endings others) :
    List.Forall₂ (fun result other => result.table = other.table ∧ Alike result other)
      results others := by
  induction reports generalizing others with
  | nil =>
      cases otherReports
      exact .nil
  | cons reported rest induction =>
      cases otherReports with
      | cons otherReported otherRest =>
          exact .cons ⟨reported.table.trans otherReported.table.symm,
            alike_of_reports reported otherReported rfl⟩ (induction otherRest)

/-! ## Two runs -/

/-- A text with one marker is one block, and the text around it keeps its own. -/
theorem exists_broken_block (before culprit after : Text)
    (marked : (Sql.tableMarker? culprit).isSome = true)
    (single : Sql.occurs Sql.tableMarker? culprit.tail = false)
    (cut : after = [] ∨ (Sql.tableMarker? after).isSome = true)
    (fails : ∀ block ∈ Sql.segment culprit, filler.Broken block) :
    ∃ block, filler.Broken block ∧
      Sql.segment (before ++ culprit ++ after) =
        Sql.segment before ++ block :: Sql.segment after ∧
      Sql.segment (before ++ after) = Sql.segment before ++ Sql.segment after := by
  have alone := Sql.segment_of_single_marker marked single
  refine ⟨_, fails _ (alone ▸ List.mem_singleton_self _), ?_, Sql.segment_append_of_cut cut⟩
  rw [List.append_assoc, Sql.segment_append (Sql.marked_append marked cut),
    Sql.segment_append_of_cut cut, alone]
  rfl

section TwoRuns

variable {block whole rest : Text} {first second : List Text} {state other : State Sink Random}
  (broken : filler.Broken block) (segments : Sql.segment whole = first ++ block :: second)
  (otherSegments : Sql.segment rest = first ++ second) (sameRandom : other.random = state.random)

include broken segments otherSegments sameRandom

theorem readyRows_eq_of_broken :
    readyRows (filler.plan (Sql.segment whole) state.random) =
      readyRows (filler.plan (Sql.segment rest) other.random) := by
  rw [segments, otherSegments, sameRandom, filler.readyRows_around_broken broken]

variable (sameSink : other.sink = state.sink)

include sameSink

theorem answersTo_eq_of_broken :
    filler.answersTo (Sql.segment whole) state.random state.sink =
      filler.answersTo (Sql.segment rest) other.random other.sink := by
  have rows := filler.readyRows_eq_of_broken broken segments otherSegments sameRandom
  rw [answersTo, answersTo, rows, sameSink]

/-- Both runs hand over the same, and raise the same if they raise anything. -/
theorem runs_end_alike :
    (∃ handed, (filler.run whole state).2.delivered = state.delivered ++ handed ∧
      (filler.run rest other).2.delivered = other.delivered ++ handed) ∧
    (filler.run rest other).2.sink = (filler.run whole state).2.sink ∧
    ∀ fault, (filler.run whole state).1 = .error fault ↔
      (filler.run rest other).1 = .error fault := by
  have rows := filler.readyRows_eq_of_broken broken segments otherSegments sameRandom
  have answers := filler.answersTo_eq_of_broken broken segments otherSegments sameRandom sameSink
  rcases filler.run_hands_over whole state with ⟨delivered, sink⟩
  rcases filler.run_hands_over rest other with ⟨otherDelivered, otherSink⟩
  rw [rows] at delivered sink
  rw [sameSink] at otherDelivered otherSink
  refine ⟨⟨_, delivered, otherDelivered⟩, otherSink.trans sink.symm, fun fault => ?_⟩
  rw [run_eq_error_iff, run_eq_error_iff, answers]

/-- The results of the other tables agree, if no answer ends the runs. -/
theorem results_agree_around_broken
    (quiet : ∀ answer ∈ filler.answersTo (Sql.segment rest) other.random other.sink,
      Destination.ending? answer = none) :
    ∃ front failed back otherFront otherBack final otherFinal,
      filler.run whole state = (.ok (front ++ failed :: back), final) ∧
      filler.run rest other = (.ok (otherFront ++ otherBack), otherFinal) ∧
      otherFinal.random = final.random ∧ failed.success = false ∧
      front.length = first.length ∧
      List.Forall₂ (fun result other => result.table = other.table ∧ Alike result other)
        front otherFront ∧
      back.length = otherBack.length ∧
      List.Forall₂ (fun block (pair : TableResult × TableResult) => AlikeFor block pair.1 pair.2)
        second (back.zip otherBack) := by
  have answers := filler.answersTo_eq_of_broken broken segments otherSegments sameRandom sameSink
  have source := (filler.plan_around_broken broken first second state.random).2
  rcases filler.run_of_quiet whole state (answers ▸ quiet) with
    ⟨results, final, ran, reports, standing⟩
  rcases filler.run_of_quiet rest other quiet with
    ⟨otherResults, otherFinal, otherRan, otherReports, otherStanding⟩
  rw [segments] at reports standing
  rw [otherSegments, sameRandom, sameSink] at otherReports
  rw [otherSegments, sameRandom] at otherStanding
  have random : otherFinal.random = final.random := by
    rcases State.fields_of_standing standing with ⟨-, left, -⟩
    rcases State.fields_of_standing otherStanding with ⟨-, otherLeft, -⟩
    rw [left, otherLeft, source]
  -- The results fall into those before and those behind the broken table.
  rcases filler.endings_around_broken broken first second state.random state.sink with
    ⟨frontEndings, name, fault, backEndings, endings, otherEndings, count, origins⟩
  rw [endings] at reports
  rw [otherEndings] at otherReports
  rcases exists_append_of_append_left reports with ⟨front, later, rfl, frontReports, laterReports⟩
  rcases exists_append_of_append_left otherReports with
    ⟨otherFront, otherBack, rfl, otherFrontReports, otherBackReports⟩
  cases laterReports with
  | @cons _ failed _ back failedReports backReports =>
      rcases alikeFor_zip origins backReports otherBackReports with ⟨backLength, backAlike⟩
      exact ⟨front, failed, back, otherFront, otherBack, final, otherFinal, ran, otherRan, random,
        failedReports.success, frontReports.length_eq.symm.trans count,
        alike_zip frontReports otherFrontReports, backLength, backAlike⟩

end TwoRuns

/-- Taking a broken table out of a document leaves the others alone.  Both runs hand over the
same row sets in the same order, leave the destination in the same state, and are ended by the
same fault, if by any.  If no answer ends them, they leave the random source in the same state
as well, and the results of the other tables agree. -/
theorem broken_table_leaves_others_alone (before culprit after : Text)
    (state other : State Sink Random)
    (marked : (Sql.tableMarker? culprit).isSome = true)
    (single : Sql.occurs Sql.tableMarker? culprit.tail = false)
    (cut : after = [] ∨ (Sql.tableMarker? after).isSome = true)
    (fails : ∀ block ∈ Sql.segment culprit, filler.Broken block)
    (sameSink : other.sink = state.sink) (sameRandom : other.random = state.random) :
    let ended := filler.run (before ++ culprit ++ after) state
    let otherEnded := filler.run (before ++ after) other
    (∃ handed, ended.2.delivered = state.delivered ++ handed ∧
      otherEnded.2.delivered = other.delivered ++ handed) ∧
    otherEnded.2.sink = ended.2.sink ∧
    (∀ fault, ended.1 = .error fault ↔ otherEnded.1 = .error fault) ∧
    ((∀ answer ∈ filler.answersTo (Sql.segment (before ++ after)) other.random other.sink,
        Destination.ending? answer = none) →
      ∃ front failed back otherFront otherBack,
        ended.1 = .ok (front ++ failed :: back) ∧
        otherEnded.1 = .ok (otherFront ++ otherBack) ∧
        otherEnded.2.random = ended.2.random ∧
        failed.success = false ∧ front.length = (Sql.segment before).length ∧
        List.Forall₂ (fun result other => result.table = other.table ∧ Alike result other)
          front otherFront ∧
        back.length = otherBack.length ∧
        List.Forall₂ (fun block (pair : TableResult × TableResult) =>
          AlikeFor block pair.1 pair.2) (Sql.segment after) (back.zip otherBack)) := by
  intro ended otherEnded
  rcases filler.exists_broken_block before culprit after marked single cut fails with
    ⟨block, broken, segments, otherSegments⟩
  rcases filler.runs_end_alike broken segments otherSegments sameRandom sameSink with
    ⟨handed, sink, faults⟩
  refine ⟨handed, sink, faults, fun quiet => ?_⟩
  rcases filler.results_agree_around_broken broken segments otherSegments sameRandom sameSink
      quiet with
    ⟨front, failed, back, otherFront, otherBack, final, otherFinal, ran, otherRan, random, told⟩
  refine ⟨front, failed, back, otherFront, otherBack, congrArg Prod.fst ran,
    congrArg Prod.fst otherRan, ?_, told⟩
  simpa only [ended, otherEnded, ran, otherRan] using random

set_option maxRecDepth 8000 in
/-- The second of three tables declares no primary key and the third one has no name. -/
theorem table_without_primary_key_leaves_others_alone :
    let filler : Filler DryRun.Statements Script :=
      ⟨⟨Policy.default, ⟨2024, 2, 29, 13, 45, 7⟩, Script.source⟩, DryRun.destination, false⟩
    let before : Text :=
      "CREATE TABLE `a` (`id` INT, `n` INT(3), PRIMARY KEY (`id`)) ENGINE=InnoDB;"
    let culprit : Text := "CREATE TABLE `b` (`n` INT) ENGINE=InnoDB;"
    let after : Text := "CREATE TABLE (`id` INT PRIMARY KEY)"
    let state : State DryRun.Statements Script := .start [] ⟨#[5], 0⟩ .still
    ∃ results otherResults final otherFinal,
      filler.run (before ++ culprit ++ after) state = (.ok results, final) ∧
      filler.run (before ++ after) state = (.ok otherResults, otherFinal) ∧
      results.length = otherResults.length + 1 ∧ final.delivered = otherFinal.delivered ∧
      final.sink = otherFinal.sink := by
  intro filler before culprit after state
  rcases filler.broken_table_leaves_others_alone before culprit after state state
    (by decide) (by decide) (.inr (by decide)) (by decide) rfl rfl with
    ⟨⟨handed, delivered, otherDelivered⟩, sink, -, agree⟩
  rcases agree (by decide) with
    ⟨front, failed, back, otherFront, otherBack, ran, otherRan, -, -, -, frontAlike, backLength, -⟩
  have ends {document : Text} {results : List TableResult}
      (ran : (filler.run document state).1 = .ok results) :
      filler.run document state = (.ok results, (filler.run document state).2) :=
    Prod.ext ran rfl
  refine ⟨_, _, _, _, ends ran, ends otherRan, ?_, delivered.trans otherDelivered.symm, sink.symm⟩
  have frontLength := frontAlike.length_eq
  simp only [List.length_append, List.length_cons]
  omega

end Filler

end SchemaSeed
