import SchemaSeed.Proofs.Random.Draws
import SchemaSeed.Proofs.RowSet.Literals
import SchemaSeed.Proofs.Sql.Value

/-! Character literals beside what was drawn for them.  Escaping is undone by the server that
reads the literal, so that it comes to one character for each draw. -/

namespace SchemaSeed

namespace Literal

open Sql

/-- A character is written as it is, or behind a backslash as the letter that brings it back. -/
theorem escape_cases (character : Char) :
    (escape character = [character] ∧ character ≠ '"' ∧ character ≠ '\\') ∨
      ∃ letter, escape character = ['\\', letter] ∧ escapedValue letter = [character] := by
  unfold escape
  repeat' split
  case isFalse noQuote _ noEscape => exact .inl ⟨rfl, noQuote, noEscape⟩
  all_goals
    subst character
    exact .inr ⟨_, rfl, rfl⟩

theorem denotes_escape (character : Char) {rest value : Text} (later : Denotes '"' rest value) :
    Denotes '"' (escape character ++ rest) (character :: value) := by
  rcases escape_cases character with ⟨plain, noQuote, noEscape⟩ | ⟨letter, escaped, undone⟩
  · rw [plain]
    exact .plain noQuote noEscape later
  · have read : Denotes '"' ('\\' :: letter :: rest) (escapedValue letter ++ value) :=
      .escaped later
    rw [undone] at read
    rw [escaped]
    exact read

theorem denotes_escapeAll (content : Text) : Denotes '"' (escapeAll content) content := by
  induction content with
  | nil => exact .nil
  | cons character content induction => exact denotes_escape character induction

/-- A text in double quotes that nothing in it closes, read as that value. -/
def Spells (literal value : Text) : Prop :=
  ∃ content, literal = quote content ∧ Enclosed '"' content ∧ value? literal = some value

theorem spells_escaped (content : Text) : Spells (quote (escapeAll content)) content :=
  ⟨_, rfl, enclosed_escapeAll content, (value?_quoted rfl).mpr (denotes_escapeAll content)⟩

theorem spells_replicate (count : Nat) :
    Spells (quote (List.replicate count 'X')) (List.replicate count 'X') := by
  have same : escapeAll (List.replicate count 'X') = List.replicate count 'X' := by
    induction count with
    | zero => rfl
    | succ count induction => exact congrArg ('X' :: ·) induction
  have spells := spells_escaped (List.replicate count 'X')
  rwa [same] at spells

end Literal

/-- The characters that a column is filled with. -/
def Column.characterCount (column : Column) : Nat :=
  match column.length with
  | none | some 0 => 255
  | some length => length

theorem Column.characterCount_eq (column : Column) :
    column.characterCount =
      if column.length.getD 0 = 0 then defaultLength else column.length.getD 0 := by
  unfold characterCount
  split <;> simp_all [defaultLength]

/-- All codes of the range are codes of characters. -/
def Policy.FreeOfSurrogates (policy : Policy) : Prop :=
  ∀ code, policy.low ≤ code → code ≤ policy.high → ¬ (0xD800 ≤ code ∧ code ≤ 0xDFFF)

theorem Policy.freeOfSurrogates_of_high_lt {policy : Policy} (below : policy.high < 0xD800) :
    policy.FreeOfSurrogates := by
  intro code _ greatest surrogate
  omega

theorem Policy.FreeOfSurrogates.toNat_ofNat {policy : Policy} (free : policy.FreeOfSurrogates)
    {code : Nat} (least : policy.low ≤ code) (greatest : code ≤ policy.high) :
    (Char.ofNat code).toNat = code := by
  have last : policy.high ≤ 0x10FFFF := policy.high_le_last
  have outside := free code least greatest
  have valid : code.isValidChar := by
    unfold Nat.isValidChar
    omega
  rw [Char.ofNat, dif_pos valid]
  rfl

namespace Generator

open Literal RandomSource

variable {State : Type u} (generator : Generator State)

/-- The same generator, keeping the calls to its source, last one first. -/
def traced : Generator (State × List Call) :=
  ⟨generator.policy, generator.instant, generator.source.traced⟩

theorem characters_eq (count : Nat) (state : State) :
    generator.characters count state =
      (((generator.source.draws generator.policy.low generator.policy.high count state).1.map
          fun code => Char.ofNat code.toNat).map replaceMarkup,
        (generator.source.draws generator.policy.low generator.policy.high count state).2) := by
  induction count generalizing state with
  | zero => rfl
  | succ count induction =>
      simp only [characters, draws, induction, List.map_cons]

variable {generator}

theorem map_toNat_draws (bounded : generator.source.Bounded)
    (free : generator.policy.FreeOfSurrogates) (count : Nat) (state : State) :
    ((generator.source.draws generator.policy.low generator.policy.high count state).1.map
        fun code => Char.ofNat code.toNat).map (fun character => (character.toNat : Int)) =
      (generator.source.draws generator.policy.low generator.policy.high count state).1 := by
  have ordered : (generator.policy.low : Int) ≤ generator.policy.high :=
    Int.ofNat_le.mpr generator.policy.low_le_high
  rw [List.map_map]
  refine (List.map_congr_left fun code member => ?_).trans (List.map_id _)
  rcases bounded.draws ordered count state code member with ⟨least, greatest⟩
  have same : (Char.ofNat code.toNat).toNat = code.toNat :=
    free.toNat_ofNat (by omega) (by omega)
  simp only [Function.comp_apply, same, id]
  omega

theorem generate_character {column : Column} (known : column.category = some .character)
    (state : State) :
    generator.generate column state =
      ((generator.character column.characterCount state).1.map some,
        (generator.character column.characterCount state).2) := by
  simp only [generate, known, literal, ← Column.characterCount_eq]

/-- If there is room for them, as many characters are drawn as the column has. -/
theorem character_of_randomized (randomized : generator.policy.randomized = true) {count : Nat}
    (room : count ≤ roomLimit) (state : State) :
    generator.character count state =
      (.ok (quote (escapeAll (generator.characters count state).1)),
        (generator.characters count state).2) := by
  have full : ¬ roomLimit < count := Nat.not_lt.mpr room
  simp only [character, randomized, if_true, Nat.min_eq_left room, full, if_false]

theorem character_of_fixed (fixed : generator.policy.randomized = false) (count : Nat)
    (state : State) :
    generator.character count state = ((copies count 'X').map quote, state) := by
  simp only [character, fixed, Bool.false_eq_true, if_false]

/-- In random mode a character column takes one draw for each character, and the literal is
read as the characters that were drawn, apart from angle brackets.  In fixed mode nothing is
drawn, and the literal is read as so many placeholders.  Both is said of lengths for which
there is room; in fixed mode a length that is no size at all is refused. -/
theorem character_literal_spells_draws (bounded : generator.source.Bounded) {column : Column}
    (known : column.category = some .character) (free : generator.policy.FreeOfSurrogates)
    (state : State) (calls : List Call) :
    let low : Int := generator.policy.low
    let high : Int := generator.policy.high
    let count := column.characterCount
    if generator.policy.randomized then
      count ≤ Nat.pow 2 59 →
      ∃ (literal characters : Text),
        generator.generate column state =
          (.ok (some literal), (generator.source.draws low high count state).2) ∧
        generator.traced.generate column (state, calls) =
          (.ok (some literal), (generator.source.draws low high count state).2,
            List.replicate count (.between low high) ++ calls) ∧
        characters.length = count ∧
        (characters.map fun character => (character.toNat : Int)) =
          (generator.source.draws low high count state).1 ∧
        Spells literal (characters.map fun character =>
          if character = '<' ∨ character = '>' then 'Z' else character)
    else
      (count ≤ Nat.pow 2 59 →
        ∃ literal,
          generator.generate column state = (.ok (some literal), state) ∧
          generator.traced.generate column (state, calls) = (.ok (some literal), state, calls) ∧
          Spells literal (List.replicate count 'X')) ∧
      (Nat.pow 2 63 ≤ count →
        generator.generate column state = (.error .lengthTooLarge, state) ∧
          generator.traced.generate column (state, calls) =
            (.error .lengthTooLarge, state, calls)) := by
  intro low high count
  rw [generate_character known, generate_character known]
  split
  case isTrue randomized =>
    intro room
    have tracedRandomized : generator.traced.policy.randomized = true := randomized
    have policy : generator.traced.policy = generator.policy := rfl
    have log : generator.traced.source.draws low high count (state, calls) = _ :=
      draws_traced low high count state calls
    have drawn := map_toNat_draws bounded free count state
    have many := congrArg List.length drawn
    rw [List.length_map, length_draws] at many
    rw [character_of_randomized randomized room, character_of_randomized tracedRandomized room]
    simp only [characters_eq, policy]
    refine ⟨_, _, rfl, ?_, many, drawn, spells_escaped _⟩
    rw [log]
    rfl
  case isFalse random =>
    have fixed : generator.policy.randomized = false := eq_false_of_ne_true random
    have tracedFixed : generator.traced.policy.randomized = false := fixed
    rw [character_of_fixed fixed, character_of_fixed tracedFixed]
    rcases copies_cases count 'X' with ⟨room, copied⟩ | ⟨full, size, -⟩ | ⟨large, refused⟩
    · rw [copied]
      refine ⟨fun _ => ⟨_, rfl, rfl, spells_replicate count⟩, fun large => ?_⟩
      exact absurd (Nat.le_trans large room) (by decide)
    · exact ⟨fun room => absurd room (Nat.not_le.mpr full),
        fun large => absurd size (Nat.not_lt.mpr large)⟩
    · rw [refused]
      refine ⟨fun room => ?_, fun _ => ⟨rfl, rfl⟩⟩
      exact absurd (Nat.le_trans large room) (by decide)

/-- A quote, a backslash and an angle bracket are drawn. -/
theorem quote_and_backslash_are_spelled :
    let column : Column := ⟨"c", some .character, some 3, false, []⟩
    let generator : Generator Script :=
      ⟨Policy.default, ⟨2024, 2, 29, 13, 45, 7⟩, Script.source⟩
    generator.source.Bounded ∧ column.category = some .character ∧
      generator.policy.FreeOfSurrogates ∧
      ∃ (literal characters : Text),
        generator.generate column ⟨#[1, 59, 27], 0⟩ =
          (.ok (some literal), ⟨#[1, 59, 27], 3⟩) ∧
        (characters.map fun character => (character.toNat : Int)) = [34, 92, 60] ∧
        Spells literal (characters.map fun character =>
          if character = '<' ∨ character = '>' then 'Z' else character) := by
  intro column generator
  have bounded : generator.source.Bounded := Script.bounded
  have known : column.category = some .character := rfl
  have free : generator.policy.FreeOfSurrogates :=
    Policy.freeOfSurrogates_of_high_lt (by decide)
  have room : column.characterCount ≤ Nat.pow 2 59 := by decide
  rcases character_literal_spells_draws bounded known free ⟨#[1, 59, 27], 0⟩ [] room with
    ⟨literal, characters, generated, -, -, drawn, spells⟩
  exact ⟨bounded, known, free, literal, characters, generated, drawn, spells⟩

/-- In fixed mode there is no literal of so many placeholders. -/
theorem huge_placeholder_is_refused :
    let column : Column := ⟨"c", some .character, some 9223372036854775808, false, []⟩
    let generator : Generator Script :=
      ⟨⟨1, false, 33, 126, by decide, by decide, by decide⟩, ⟨2024, 2, 29, 13, 45, 7⟩,
        Script.source⟩
    generator.source.Bounded ∧ column.category = some .character ∧
      generator.policy.FreeOfSurrogates ∧ generator.policy.randomized = false ∧
      generator.generate column ⟨#[0], 0⟩ = (.error .lengthTooLarge, ⟨#[0], 0⟩) ∧
      ¬ ∃ literal after, generator.generate column ⟨#[0], 0⟩ = (.ok (some literal), after) := by
  intro column generator
  have refused : generator.generate column ⟨#[0], 0⟩ = (.error .lengthTooLarge, ⟨#[0], 0⟩) := rfl
  refine ⟨Script.bounded, rfl, Policy.freeOfSurrogates_of_high_lt (by decide), rfl, refused, ?_⟩
  rintro ⟨literal, after, generated⟩
  rw [refused] at generated
  cases generated

end Generator

end SchemaSeed
