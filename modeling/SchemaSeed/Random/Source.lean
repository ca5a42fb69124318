import SchemaSeed.Fault

/-! Sources of independent uniform draws.  A source is a deterministic machine: each
draw answers a value and the state for the next one. -/

namespace SchemaSeed

structure RandomSource (State : Type u) where
  /-- A whole number from the first bound to the second, both included. -/
  between : Int → Int → State → Int × State
  /-- A number from zero up to, not including, one. -/
  fraction : State → Float × State
  /-- A position in a sequence of that length, which is not zero. -/
  position : Nat → State → Nat × State
  /-- What happens when a choice is to be made among nothing. -/
  nothing : State → Fault × State

namespace RandomSource

/-- As `between`, refusing a range that holds nothing. -/
def integer (source : RandomSource State) (low high : Int) (state : State) :
    Except Fault Int × State :=
  if high < low then (.error .emptyRange, state)
  else
    let (value, state) := source.between low high state
    (.ok value, state)

/-- An element of `items`. -/
def choose (source : RandomSource State) (items : List α) (state : State) :
    Except Fault α × State :=
  match items with
  | [] =>
      let (fault, state) := source.nothing state
      (.error fault, state)
  | first :: rest =>
      let (position, state) := source.position (rest.length + 1) state
      (.ok ((first :: rest).getD position first), state)

/-- One request to a source. -/
inductive Call where
  | between (low high : Int)
  | fraction
  | position (count : Nat)
deriving Repr, DecidableEq

/-- The same source, keeping the calls it receives, last one first. -/
def traced (source : RandomSource State) : RandomSource (State × List Call) where
  between low high := fun (state, calls) =>
    let (value, state) := source.between low high state
    (value, state, .between low high :: calls)
  fraction := fun (state, calls) =>
    let (value, state) := source.fraction state
    (value, state, .fraction :: calls)
  position count := fun (state, calls) =>
    let (value, state) := source.position count state
    (value, state, .position count :: calls)
  nothing := fun (state, calls) =>
    let (fault, state) := source.nothing state
    (fault, state, .position 0 :: calls)

end RandomSource

end SchemaSeed
