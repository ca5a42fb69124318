import SchemaSeed.Proofs.Random.Draws

/-! What a source answers to calls that are made one after the other.  Every call moves the
source on, so that the answers to later calls begin where those to earlier ones have left it. -/

namespace SchemaSeed

namespace RandomSource

/-- The answer to one call. -/
inductive Answer where
  | number (value : Int)
  | fraction (value : Float)
  | position (value : Nat)

variable {State : Type u} (source : RandomSource State)

def ask : Call → State → Answer × State
  | .between low high, state =>
      let (value, state) := source.between low high state
      (.number value, state)
  | .fraction, state =>
      let (value, state) := source.fraction state
      (.fraction value, state)
  | .position count, state =>
      let (value, state) := source.position count state
      (.position value, state)

/-- The answers to several calls, and the state behind them. -/
def askAll : List Call → State → List Answer × State
  | [], state => ([], state)
  | call :: rest, state =>
      let (answer, state) := source.ask call state
      let (answers, state) := askAll rest state
      (answer :: answers, state)

theorem length_askAll (calls : List Call) (state : State) :
    (source.askAll calls state).1.length = calls.length := by
  induction calls generalizing state with
  | nil => rfl
  | cons call rest induction => exact congrArg (· + 1) (induction _)

theorem askAll_append (first second : List Call) (state : State) :
    source.askAll (first ++ second) state =
      ((source.askAll first state).1 ++ (source.askAll second (source.askAll first state).2).1,
        (source.askAll second (source.askAll first state).2).2) := by
  induction first generalizing state with
  | nil => rfl
  | cons call rest induction => simp only [List.cons_append, askAll, induction]

/-- The answers to calls in the middle stand in the middle of all answers. -/
theorem slice_askAll (before own after : List Call) (state : State) :
    ((source.askAll (before ++ own ++ after) state).1.drop before.length).take own.length =
      (source.askAll own (source.askAll before state).2).1 := by
  rw [List.append_assoc, askAll_append, askAll_append,
    List.drop_left' (source.length_askAll before state),
    List.take_left' (source.length_askAll own _)]

/-- A number of calls for whole numbers of one range draws that many of them. -/
theorem askAll_replicate (low high : Int) (count : Nat) (state : State) :
    source.askAll (List.replicate count (.between low high)) state =
      ((source.draws low high count state).1.map .number,
        (source.draws low high count state).2) := by
  induction count generalizing state with
  | zero => rfl
  | succ count induction =>
      simp only [List.replicate_succ, askAll, ask, draws, induction, List.map_cons]

/-- A source that keeps the calls it receives answers them as before. -/
theorem askAll_traced (calls : List Call) (state : State) (log : List Call) :
    source.traced.askAll calls (state, log) =
      ((source.askAll calls state).1, (source.askAll calls state).2, calls.reverse ++ log) := by
  induction calls generalizing state log with
  | nil => rfl
  | cons call rest induction =>
      have answered : source.traced.ask call (state, log) =
          ((source.ask call state).1, (source.ask call state).2, call :: log) := by
        cases call <;> rfl
      simp only [askAll, answered, induction, List.reverse_cons, List.append_assoc,
        List.singleton_append]

end RandomSource

end SchemaSeed
