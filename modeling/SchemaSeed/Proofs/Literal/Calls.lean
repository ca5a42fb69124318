import SchemaSeed.Proofs.Literal.Characters
import SchemaSeed.Proofs.Random.Answers

/-! The calls that a literal takes.  How many there are and what they ask for is settled by the
policy and the column, and the literal is settled by the answers to them: two sources that answer
them alike give the same literal. -/

namespace SchemaSeed

open RandomSource

namespace Policy

open Literal

variable (policy : Policy)

/-- What is asked for in random mode only. -/
def whenRandom (calls : List Call) : List Call :=
  if policy.randomized then calls else []

def rangeCalls (range : IntegerRange) : List Call :=
  policy.whenRandom [.between range.least range.greatest]

/-- The calls to a source that the literal of a column takes. -/
def calls (column : Column) : List Call :=
  match column.category with
  | none => []
  | some .character =>
      policy.whenRandom (List.replicate column.characterCount (.between policy.low policy.high))
  | some .int8 => policy.rangeCalls (.tiny column.unsigned)
  | some .int16 => policy.rangeCalls (.small column.unsigned)
  | some .int24 => policy.rangeCalls (.medium column.unsigned)
  | some .int32 => policy.rangeCalls (.standard column.unsigned)
  | some .int64 => policy.whenRandom (List.replicate bigDigits (.between 0 9))
  | some .decimal =>
      policy.whenRandom
        [.between 0 (Nat.pow 10 (decimalWidth (column.length.getD 0)) - 1), .between 0 99]
  | some .float32 | some .float64 => [.fraction]
  | some .enumeration => [.position column.members.length]
  | some .date | some .datetime | some .time => []

/-- How many calls the literal of a column takes. -/
def drawCount (column : Column) : Nat :=
  match column.category with
  | some .character => if policy.randomized then column.characterCount else 0
  | some .int8 | some .int16 | some .int24 | some .int32 => if policy.randomized then 1 else 0
  | some .int64 => if policy.randomized then 19 else 0
  | some .decimal => if policy.randomized then 2 else 0
  | some .float32 | some .float64 | some .enumeration => 1
  | some .date | some .datetime | some .time | none => 0

/-- What the calls for a column rest on: an enumeration has members to choose from, and there
is room for the characters that are drawn. -/
structure Grants (column : Column) : Prop where
  choosable : column.category = some .enumeration → column.members ≠ []
  roomy : column.category = some .character → policy.randomized = true →
    column.characterCount ≤ roomLimit

theorem length_whenRandom (calls : List Call) :
    (policy.whenRandom calls).length = if policy.randomized then calls.length else 0 := by
  rw [whenRandom]
  split <;> rfl

theorem length_calls (column : Column) :
    (policy.calls column).length = policy.drawCount column := by
  cases known : column.category with
  | none => simp only [calls, drawCount, known, List.length_nil]
  | some category =>
      cases category <;>
        simp only [calls, drawCount, known, rangeCalls, length_whenRandom, List.length_replicate,
          List.length_cons, List.length_nil, bigDigits]

end Policy

namespace Generator

open Literal

variable {State : Type u} {OtherState : Type v}

theorem digits_eq (generator : Generator State) (count : Nat) (state : State) :
    generator.digits count state =
      ((generator.source.draws 0 9 count state).1.flatMap Decimal.integer,
        (generator.source.draws 0 9 count state).2) := by
  induction count generalizing state with
  | zero => rfl
  | succ count induction => simp only [digits, draws, induction, List.flatMap_cons]

section Determined

variable {policy : Policy} {instant : Instant} {source : RandomSource State}
  {other : RandomSource OtherState}

/-- What is drawn from two sources is the same if both answer those calls alike, and the calls
are all that moves the first source on. -/
def Determined (source : RandomSource State) (other : RandomSource OtherState)
    (calls : List Call) (first : State → α × State) (second : OtherState → α × OtherState) : Prop :=
  ∀ state otherState, (source.askAll calls state).1 = (other.askAll calls otherState).1 →
    (first state).1 = (second otherState).1 ∧ (first state).2 = (source.askAll calls state).2

theorem determined_pure (value : α) :
    Determined source other [] (fun state => (value, state)) (fun state => (value, state)) :=
  fun _ _ _ => ⟨rfl, rfl⟩

theorem Determined.map {calls : List Call} {first : State → α × State}
    {second : OtherState → α × OtherState} (determined : Determined source other calls first second)
    (write : α → β) :
    Determined source other calls (fun state => (write (first state).1, (first state).2))
      (fun state => (write (second state).1, (second state).2)) := by
  intro state otherState alike
  rcases determined state otherState alike with ⟨same, moved⟩
  exact ⟨congrArg write same, moved⟩

theorem determined_draws (low high : Int) (count : Nat) :
    Determined source other (List.replicate count (.between low high))
      (source.draws low high count) (other.draws low high count) := by
  intro state otherState alike
  simp only [askAll_replicate] at alike ⊢
  exact ⟨(List.map_inj_right fun _ _ => Answer.number.inj).mp alike, trivial⟩

theorem determined_character {length : Nat}
    (roomy : policy.randomized = true → length ≤ roomLimit) :
    Determined source other
      (policy.whenRandom (List.replicate length (.between policy.low policy.high)))
      (character ⟨policy, instant, source⟩ length) (character ⟨policy, instant, other⟩ length) := by
  intro state otherState
  cases randomized : policy.randomized with
  | true =>
      have room := roomy randomized
      rw [character_of_randomized randomized room, character_of_randomized randomized room]
      simp only [characters_eq, Policy.whenRandom, randomized, if_true]
      exact (determined_draws policy.low policy.high length).map
        (fun codes => Except.ok (quote (escapeAll ((codes.map fun code =>
          Char.ofNat code.toNat).map replaceMarkup)))) state otherState
  | false =>
      rw [character_of_fixed randomized, character_of_fixed randomized]
      simp only [Policy.whenRandom, randomized, Bool.false_eq_true, if_false]
      exact fun _ => ⟨trivial, rfl⟩

theorem determined_integer (range : IntegerRange) :
    Determined source other (policy.rangeCalls range) (integer ⟨policy, instant, source⟩ range)
      (integer ⟨policy, instant, other⟩ range) := by
  intro state otherState
  simp only [integer, Policy.rangeCalls, Policy.whenRandom]
  split
  · exact (determined_draws range.least range.greatest 1).map
      (fun numbers => Decimal.integer (numbers.headD 0)) state otherState
  · exact determined_pure _ state otherState

theorem determined_bigInteger :
    Determined source other (policy.whenRandom (List.replicate bigDigits (.between 0 9)))
      (bigInteger ⟨policy, instant, source⟩) (bigInteger ⟨policy, instant, other⟩) := by
  intro state otherState
  simp only [bigInteger, digits_eq, Policy.whenRandom]
  split
  · exact (determined_draws 0 9 bigDigits).map (·.flatMap Decimal.integer) state otherState
  · exact determined_pure _ state otherState

theorem determined_decimal (length : Nat) :
    Determined source other
      (policy.whenRandom [.between 0 (Nat.pow 10 (decimalWidth length) - 1), .between 0 99])
      (decimal ⟨policy, instant, source⟩ length) (decimal ⟨policy, instant, other⟩ length) := by
  intro state otherState
  simp only [decimal, Policy.whenRandom]
  split
  · intro alike
    simp only [askAll, ask, List.cons.injEq, Answer.number.injEq, and_true] at alike ⊢
    rcases alike with ⟨whole, fraction⟩
    rw [whole, fraction]
    split <;> exact ⟨rfl, rfl⟩
  · exact fun _ => ⟨rfl, rfl⟩

theorem determined_fraction :
    Determined source other [.fraction] source.fraction other.fraction := by
  intro state otherState alike
  simp only [askAll, ask, List.cons.injEq, Answer.fraction.injEq, and_true] at alike
  exact ⟨alike, rfl⟩

theorem determined_double (length : Nat) :
    Determined source other [.fraction] (double ⟨policy, instant, source⟩ length)
      (double ⟨policy, instant, other⟩ length) := by
  intro state otherState
  simp only [double]
  split
  · exact determined_fraction.map (fun _ => Except.error Fault.numberTooLarge) state otherState
  · exact determined_fraction.map (fun fraction => Except.ok (Decimal.ofFloat
      (fraction * Binary64.nearest (Nat.pow 10 length - 1) 1))) state otherState

theorem determined_position (count : Nat) :
    Determined source other [.position count] (source.position count) (other.position count) := by
  intro state otherState alike
  simp only [askAll, ask, List.cons.injEq, Answer.position.injEq, and_true] at alike
  exact ⟨alike, rfl⟩

theorem determined_enumeration {members : List Text} (nonempty : members ≠ []) :
    Determined source other [.position members.length]
      (enumeration ⟨policy, instant, source⟩ members)
      (enumeration ⟨policy, instant, other⟩ members) := by
  rcases List.exists_cons_of_ne_nil nonempty with ⟨first, rest, rfl⟩
  exact (determined_position (first :: rest).length).map fun position =>
    Except.ok (quote ((first :: rest).getD position first))

/-- Whatever its category, the literal of a column is settled by the answers to its calls. -/
theorem determined_literal {column : Column} {category : Category}
    (known : column.category = some category) (grants : policy.Grants column) :
    Determined source other (policy.calls column)
      (literal ⟨policy, instant, source⟩ column category)
      (literal ⟨policy, instant, other⟩ column category) := by
  cases category <;> simp only [Policy.calls, known]
  case character =>
    intro state otherState
    simp only [literal, ← Column.characterCount_eq]
    exact determined_character (grants.roomy known) state otherState
  case int8 | int16 | int24 | int32 => exact (determined_integer _).map Except.ok
  case int64 => exact determined_bigInteger.map Except.ok
  case decimal => exact determined_decimal (column.length.getD 0)
  case float32 =>
    exact determined_fraction.map fun fraction =>
      Except.ok (Decimal.ofFloat (fraction * singleScale))
  case float64 =>
    intro state otherState
    simp only [literal]
    exact determined_double (column.length.getD 0) state otherState
  case enumeration => exact determined_enumeration (grants.choosable known)
  case date | datetime | time => exact determined_pure _

theorem determined_generate {column : Column} (grants : policy.Grants column) :
    Determined source other (policy.calls column) (generate ⟨policy, instant, source⟩ column)
      (generate ⟨policy, instant, other⟩ column) := by
  intro state otherState
  cases known : column.category with
  | none =>
      simp only [generate, known, Policy.calls]
      exact fun _ => ⟨trivial, rfl⟩
  | some category =>
      simp only [generate, known]
      exact ((determined_literal known grants).map (·.map some)) state otherState

end Determined

/-! ## Literals that were given -/

/-- A literal is given to an enumeration only if there are members to choose from, and to a
character column only if there is room for it. -/
theorem grants_of_generate {generator : Generator State} {column : Column}
    {state after : State} {written : Option Text}
    (generated : generator.generate column state = (.ok written, after)) :
    generator.policy.Grants column where
  choosable := by
    intro known none
    rcases generator.generate_eq_ok known generated with ⟨text, -, drawn⟩
    simp only [literal, enumeration, choose, none] at drawn
    cases drawn
  roomy := by
    intro known randomized
    refine Nat.le_of_not_lt fun full => ?_
    rw [generate_character known] at generated
    simp only [character, randomized, if_true, full] at generated
    cases generated

section Given

variable {policy : Policy} {instant : Instant} {source : RandomSource State} {column : Column}
  {state after : State} {written : Option Text}
  (generated : generate ⟨policy, instant, source⟩ column state = (.ok written, after))

include generated

/-- The calls of a column are all that moves the source on. -/
theorem after_eq_of_generate : after = (source.askAll (policy.calls column) state).2 := by
  have determined : Determined source source (policy.calls column)
      (generate ⟨policy, instant, source⟩ column) (generate ⟨policy, instant, source⟩ column) :=
    determined_generate (grants_of_generate generated)
  have moved := (determined state state rfl).2
  rwa [generated] at moved

/-- Another source that answers the calls of a column alike gives the same literal. -/
theorem generate_of_alike {other : RandomSource OtherState} {otherState : OtherState}
    (alike : (source.askAll (policy.calls column) state).1 =
      (other.askAll (policy.calls column) otherState).1) :
    generate ⟨policy, instant, other⟩ column otherState =
      (.ok written, (other.askAll (policy.calls column) otherState).2) := by
  have grants : policy.Grants column := grants_of_generate generated
  have determined : Determined source other (policy.calls column)
      (generate ⟨policy, instant, source⟩ column) (generate ⟨policy, instant, other⟩ column) :=
    determined_generate grants
  have reversed : Determined other source (policy.calls column)
      (generate ⟨policy, instant, other⟩ column) (generate ⟨policy, instant, source⟩ column) :=
    determined_generate grants
  have same := (determined state otherState alike).1
  have moved := (reversed otherState state alike.symm).2
  rw [generated] at same
  exact Prod.ext same.symm moved

end Given

end Generator

end SchemaSeed
