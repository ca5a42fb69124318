import SchemaSeed.Proofs.Fill.Account

/-! What a run never takes back.  Filling a table adds to what was handed over, told and logged,
and so does a whole run, however it ends.  A run over a list of tables is therefore seen as one
over the tables before a certain one, the filling of this one, and one over those behind it. -/

namespace SchemaSeed

universe u v

namespace Filler

variable {Sink : Type u} {Random : Type v}

/-! ## What a run keeps -/

namespace State

/-- What was handed over, told and logged stays so. -/
structure Grows (state later : State Sink Random) : Prop where
  delivered : state.delivered <+: later.delivered
  diagnostics : state.diagnostics <+: later.diagnostics
  records : state.records <+: later.records

/-- A message was told between two states, and logged with its level. -/
structure Tells (level : Log.Level) (message : Text) (state later : State Sink Random) :
    Prop where
  diagnostics : ∃ told, later.diagnostics = state.diagnostics ++ told ∧ message ∈ told
  records : ∃ logged, later.records = state.records ++ logged ∧
    Diagnostics.record message level ∈ logged

variable {state between later : State Sink Random}

theorem Grows.refl (state : State Sink Random) : state.Grows state :=
  ⟨List.prefix_rfl, List.prefix_rfl, List.prefix_rfl⟩

theorem Grows.trans (first : state.Grows between) (second : between.Grows later) :
    state.Grows later :=
  ⟨first.delivered.trans second.delivered, first.diagnostics.trans second.diagnostics,
    first.records.trans second.records⟩

theorem grows_log (record : Log.Record) (state : State Sink Random) :
    state.Grows (state.log record) :=
  ⟨List.prefix_rfl, List.prefix_rfl, List.prefix_append _ _⟩

theorem grows_logAll (records : List Log.Record) (state : State Sink Random) :
    state.Grows (state.logAll records) :=
  ⟨List.prefix_rfl, List.prefix_rfl, List.prefix_append _ _⟩

theorem grows_say (level : Log.Level) (message : Text) (state : State Sink Random) :
    state.Grows (state.say level message) :=
  ⟨List.prefix_rfl, List.prefix_append _ _, List.prefix_append _ _⟩

theorem grows_readClock (state : State Sink Random) : state.Grows state.readClock.2 :=
  ⟨List.prefix_rfl, List.prefix_rfl, List.prefix_rfl⟩

theorem tells_say (level : Log.Level) (message : Text) (state : State Sink Random) :
    Tells level message state (state.say level message) :=
  ⟨⟨[message], rfl, List.mem_singleton_self _⟩, ⟨_, rfl, List.mem_singleton_self _⟩⟩

/-- What is told at some time is told in any longer time. -/
theorem Tells.within {level : Log.Level} {message : Text} {first last : State Sink Random}
    (tells : Tells level message state later) (before : first.Grows state)
    (behind : later.Grows last) : Tells level message first last := by
  rcases tells with ⟨⟨told, diagnostics, amongTold⟩, logged, records, amongLogged⟩
  rcases before with ⟨-, ⟨toldBefore, equalBefore⟩, loggedBefore, recordsBefore⟩
  rcases behind with ⟨-, ⟨toldBehind, equalBehind⟩, loggedBehind, recordsBehind⟩
  constructor
  · refine ⟨toldBefore ++ told ++ toldBehind, ?_, ?_⟩
    · simp only [← equalBehind, diagnostics, ← equalBefore, List.append_assoc]
    · exact List.mem_append_left _ (List.mem_append_right _ amongTold)
  · refine ⟨loggedBefore ++ logged ++ loggedBehind, ?_, ?_⟩
    · simp only [← recordsBehind, records, ← recordsBefore, List.append_assoc]
    · exact List.mem_append_left _ (List.mem_append_right _ amongLogged)

end State

open State

variable (filler : Filler Sink Random)

theorem grows_opened (document : Text) (state : State Sink Random) :
    state.Grows (filler.opened document state) :=
  (grows_logAll _ _).trans (grows_log _ _)

theorem grows_begun (number : Nat) (state : State Sink Random) :
    state.Grows (begun number state) :=
  (grows_log _ _).trans (grows_readClock _)

theorem grows_checkColumns (table : Table) (state : State Sink Random) :
    state.Grows (filler.checkColumns table state).2 := by
  simp only [checkColumns]
  split
  · exact .refl _
  · split
    · exact .refl _
    · exact grows_say _ _ _

theorem grows_prepare (block : Text) (state : State Sink Random) :
    state.Grows (filler.prepare block state).2 := by
  simp only [prepare]
  cases Reading.ofBlock block with
  | error fault => exact .refl _
  | ok reading =>
      dsimp only
      have checked := filler.grows_checkColumns reading.table (state.log reading.record)
      have grown := (grows_log reading.record state).trans checked
      generalize filler.checkColumns reading.table (state.log reading.record) = result at grown ⊢
      rcases result with ⟨checked, next⟩
      cases checked with
      | error fault => exact grown
      | ok _ => exact grown.trans ⟨List.prefix_rfl, List.prefix_rfl, List.prefix_rfl⟩

theorem grows_fail (name : Text) (seconds : Float) (fault : Fault) (state : State Sink Random) :
    state.Grows (filler.fail name seconds fault state).2 := by
  simp only [fail]
  split
  · exact .refl _
  · split
    · exact grows_log _ _
    · exact (grows_log _ _).trans (grows_say _ _ _)

theorem grows_conclude (name : Text) (seconds : Float) (insertion : Timing) (outcome : Outcome)
    (state : State Sink Random) :
    state.Grows (filler.conclude name seconds insertion outcome state).2 := by
  simp only [conclude]
  refine Grows.trans ?_ (grows_say _ _ _)
  cases outcome.success <;> cases outcome.detail.isEmpty
  · exact ((grows_say _ _ _).trans (grows_log _ _)).trans (grows_say _ _ _)
  · exact (grows_say _ _ _).trans (grows_log _ _)
  · exact ((grows_say _ _ _).trans (grows_log _ _)).trans (grows_say _ _ _)
  · exact (grows_say _ _ _).trans (grows_log _ _)

theorem grows_deliver (rowSet : RowSet) (state : State Sink Random) :
    state.Grows (filler.deliver rowSet state).2 :=
  ⟨List.prefix_append _ _, List.prefix_rfl, List.prefix_append _ _⟩

/-- Once a table was prepared, its filling takes nothing back. -/
theorem prepare_grows_fillTable (number : Nat) (block : Text) (state : State Sink Random) :
    (filler.prepare block (begun number state)).2.Grows
      (filler.fillTable number block state).2 := by
  rcases prepared : filler.prepare block (begun number state) with ⟨⟨name, rowSet⟩, between⟩
  rw [begun] at prepared
  simp only [fillTable, prepared]
  cases rowSet with
  | error fault => exact (grows_readClock _).trans (filler.grows_fail _ 0 _ _)
  | ok rowSet =>
      dsimp only
      generalize toldOf : State.tell _ between.readClock.2 = told
      have grown : between.Grows told := by
        rw [← toldOf]
        exact (grows_readClock _).trans (grows_say _ _ _)
      have handed := filler.grows_deliver rowSet told.readClock.2
      generalize filler.deliver rowSet told.readClock.2 = delivery at handed ⊢
      rcases delivery with ⟨outcome, next⟩
      have grown : between.Grows next := grown.trans ((grows_readClock _).trans handed)
      have grown := grown.trans (grows_readClock next)
      cases outcome with
      | ok outcome =>
          dsimp only
          exact grown.trans (filler.grows_conclude _ _ _ _ _)
      | error fault => exact grown.trans (filler.grows_fail _ _ _ _)

theorem grows_fillTable (number : Nat) (block : Text) (state : State Sink Random) :
    state.Grows (filler.fillTable number block state).2 :=
  ((grows_begun number state).trans (filler.grows_prepare block _)).trans
    (filler.prepare_grows_fillTable number block state)

theorem grows_fillTables (number : Nat) (blocks : List Text) (state : State Sink Random) :
    state.Grows (filler.fillTables number blocks state).2 := by
  induction blocks generalizing number state with
  | nil => exact .refl _
  | cons block rest induction =>
      have first := filler.grows_fillTable number block state
      rcases filled : filler.fillTable number block state with ⟨ended, between⟩
      rw [filled] at first
      simp only [fillTables, filled]
      cases ended with
      | error fault => exact first
      | ok result =>
          have later := induction (number + 1) between
          dsimp only
          generalize filler.fillTables (number + 1) rest between = filledRest at later ⊢
          rcases filledRest with ⟨ended, last⟩
          cases ended with
          | error fault => exact first.trans later
          | ok results => exact first.trans later

/-! ## One table of a run -/

section Steps

variable {filler}

theorem exists_of_fillTables_cons {number : Nat} {block : Text} {rest : List Text}
    {state final : State Sink Random} {results : List TableResult}
    (filled : filler.fillTables number (block :: rest) state = (.ok results, final)) :
    ∃ result others between, filler.fillTable number block state = (.ok result, between) ∧
      filler.fillTables (number + 1) rest between = (.ok others, final) ∧
      results = result :: others := by
  simp only [fillTables] at filled
  rcases first : filler.fillTable number block state with ⟨ended, between⟩
  rw [first] at filled
  cases ended with
  | error fault => cases filled
  | ok result =>
      simp only at filled
      rcases later : filler.fillTables (number + 1) rest between with ⟨ended, last⟩
      rw [later] at filled
      cases ended with
      | error fault => cases filled
      | ok others =>
          cases filled
          exact ⟨result, others, between, rfl, later, rfl⟩

/-- A run over some tables is one over those before a table, the filling of this table, and a
run over those behind it. -/
theorem exists_of_fillTables_append {number : Nat} {first : List Text} {block : Text}
    {second : List Text} {state final : State Sink Random} {results : List TableResult}
    (filled : filler.fillTables number (first ++ block :: second) state = (.ok results, final)) :
    ∃ front result back taken left, results = front ++ result :: back ∧
      front.length = first.length ∧
      filler.fillTables number first state = (.ok front, taken) ∧
      filler.fillTable (number + first.length) block taken = (.ok result, left) ∧
      filler.fillTables (number + first.length + 1) second left = (.ok back, final) := by
  induction first generalizing number state results with
  | nil =>
      rcases exists_of_fillTables_cons filled with ⟨result, others, between, own, later, rfl⟩
      exact ⟨[], result, others, state, between, rfl, rfl, rfl, own, later⟩
  | cons other first induction =>
      rcases exists_of_fillTables_cons filled with ⟨ahead, others, between, filledOther, later, rfl⟩
      rcases induction later with
        ⟨front, result, back, taken, left, rfl, length, before, own, behind⟩
      rw [Nat.add_right_comm number 1, Nat.add_assoc number] at own behind
      refine ⟨ahead :: front, result, back, taken, left, rfl, congrArg Nat.succ length, ?_, own,
        behind⟩
      simp only [fillTables, filledOther, before]

end Steps

end Filler

end SchemaSeed
