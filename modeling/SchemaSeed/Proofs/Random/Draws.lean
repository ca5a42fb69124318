import SchemaSeed.Random.Scripted
import SchemaSeed.Random.Twister

/-! Whole numbers drawn in a row.  A source answers them one after the other, and keeps within
the bounds that it is asked for; both the twister and a script do. -/

namespace SchemaSeed

namespace RandomSource

variable {State : Type u} (source : RandomSource State)

/-- Whole numbers stay within the bounds of a range that holds any. -/
def Bounded : Prop :=
  ∀ {low high : Int} (state : State), low ≤ high →
    low ≤ (source.between low high state).1 ∧ (source.between low high state).1 ≤ high

/-- That many numbers of one range, and the state behind them. -/
def draws (low high : Int) : Nat → State → List Int × State
  | 0, state => ([], state)
  | count + 1, state =>
      let (first, state) := source.between low high state
      let (others, state) := draws low high count state
      (first :: others, state)

variable {source}

theorem length_draws (low high : Int) (count : Nat) (state : State) :
    (source.draws low high count state).1.length = count := by
  induction count generalizing state with
  | zero => rfl
  | succ count induction => exact congrArg (· + 1) (induction _)

theorem Bounded.draws (bounded : source.Bounded) {low high : Int} (ordered : low ≤ high)
    (count : Nat) (state : State) :
    ∀ number ∈ (source.draws low high count state).1, low ≤ number ∧ number ≤ high := by
  induction count generalizing state with
  | zero => rintro number ⟨⟩
  | succ count induction =>
      intro number member
      rcases List.mem_cons.mp member with rfl | later
      · exact bounded state ordered
      · exact induction _ number later

/-- A source that keeps the calls it receives draws the same numbers, with one call for each. -/
theorem draws_traced (low high : Int) (count : Nat) (state : State) (calls : List Call) :
    source.traced.draws low high count (state, calls) =
      ((source.draws low high count state).1, (source.draws low high count state).2,
        List.replicate count (.between low high) ++ calls) := by
  induction count generalizing state calls with
  | zero => rfl
  | succ count induction =>
      simp only [RandomSource.draws, traced]
      rw [← traced, induction, List.replicate_succ', List.append_assoc]
      rfl

end RandomSource

/-- The twister offsets the low bound by a number below the size of the range. -/
theorem Twister.bounded : Twister.source.Bounded := by
  intro low high twister ordered
  have positive : 0 < (high - low + 1).toNat := by omega
  have offset := Twister.below_lt positive twister
  simp only [Twister.source]
  omega

/-- A scripted draw is reduced to the range. -/
theorem Script.bounded : Script.source.Bounded := by
  intro low high script ordered
  have positive : 0 < high - low + 1 := by omega
  have least := Int.emod_nonneg script.next.1 (Int.ne_of_gt positive)
  have greatest := Int.emod_lt_of_pos script.next.1 positive
  simp only [Script.source]
  omega

end SchemaSeed
