import SchemaSeed.Proofs.Sql.Nested

/-! The first group of a text, told by positions alone.  A group opens at the first opening
parenthesis outside of quotes and closes at the first later position up to which as many
parentheses close as open.  The search for a group finds just these positions; where there is
no group that closes, it depends on the quotes at the end of the text how the search ends. -/

namespace SchemaSeed

namespace Sql

/-! ## Positions outside of quotes -/

/-- The quotes in front of position `index`, none of them being open at `start`. -/
def modeAt (text : Text) (start index : Nat) : Mode :=
  Mode.plain.run (text.slice start index)

/-- Whether `character` stands at position `index`, outside of quotes. -/
def standsAt (text : Text) (start index : Nat) (character : Char) : Bool :=
  text[index]? == some character && modeAt text start index == .plain

/-- How often `character` stands outside of quotes from position `first` up to, not including,
position `stop`. -/
def occurrences (text : Text) (start : Nat) (character : Char) (first stop : Nat) : Nat :=
  (List.range' first (stop - first)).countP fun index => standsAt text start index character

/-- The first opening parenthesis outside of quotes. -/
structure Opens (text : Text) (start opening : Nat) : Prop where
  later : start ≤ opening
  stands : standsAt text start opening '(' = true
  first : ∀ index, index < opening → start ≤ index → standsAt text start index '(' = false

/-- Parentheses outside of quotes are balanced from position `opening` up to and including
position `closing`. -/
def IsEven (text : Text) (start opening closing : Nat) : Prop :=
  occurrences text start '(' opening (closing + 1) =
    occurrences text start ')' opening (closing + 1)

instance (text : Text) (start opening closing : Nat) :
    Decidable (IsEven text start opening closing) :=
  inferInstanceAs (Decidable (_ = _))

/-- The first position behind `opening` at which the parentheses are balanced. -/
structure Balances (text : Text) (start opening closing : Nat) : Prop where
  later : opening < closing
  within : closing < text.length
  even : IsEven text start opening closing
  first : ∀ index, index < closing → opening < index → ¬ IsEven text start opening index

section Positions

variable {text : Text} {start position : Nat} {character : Char}

theorem slice_succ (later : start ≤ position) (found : text[position]? = some character) :
    text.slice start (position + 1) = text.slice start position ++ [character] := by
  have here : (text.drop start)[position - start]? = some character := by
    rw [List.getElem?_drop, Nat.add_sub_cancel' later, found]
  rw [Text.slice, Nat.sub_add_comm later, List.take_add_one, here]
  rfl

theorem modeAt_start (text : Text) (start : Nat) : modeAt text start start = .plain := by
  rw [modeAt, Text.slice, Nat.sub_self, List.take_zero, Mode.run_nil]

theorem modeAt_succ (later : start ≤ position) (found : text[position]? = some character) :
    modeAt text start (position + 1) = (modeAt text start position).step character := by
  rw [modeAt, slice_succ later found, Mode.run_append, Mode.run_cons, Mode.run_nil, modeAt]

theorem standsAt_iff : standsAt text start position character = true ↔
    text[position]? = some character ∧ modeAt text start position = .plain := by
  rw [standsAt, Bool.and_eq_true, beq_iff_eq, beq_iff_eq]

theorem occurrences_self (text : Text) (start : Nat) (character : Char) (first : Nat) :
    occurrences text start character first first = 0 := by
  rw [occurrences, Nat.sub_self]
  rfl

theorem occurrences_succ {first : Nat} (later : first ≤ position) (text : Text) (start : Nat)
    (character : Char) :
    occurrences text start character first (position + 1) =
      occurrences text start character first position +
        (if standsAt text start position character = true then 1 else 0) := by
  rw [occurrences, Nat.sub_add_comm later, List.range'_concat, List.countP_append, Nat.one_mul,
    Nat.add_sub_cancel' later, List.countP_singleton, occurrences]

end Positions

/-! ## Steps of the search -/

/-- A step changes the depth by the parenthesis that it reads outside of quotes. -/
theorem depth_step_eq (scan : Scan) (character : Char) :
    (scan.step character).depth =
      scan.depth + (if character = '(' ∧ scan.mode = .plain then 1 else 0) -
        (if character = ')' ∧ scan.mode = .plain then 1 else 0) := by
  rcases scan with ⟨mode, depth⟩
  cases mode with
  | quoted quote escaped => simp [Scan.step]
  | plain =>
      by_cases opening : character = '('
      · simp [Scan.step, opening]
      · by_cases closing : character = ')'
        · simp [Scan.step, closing]
        · simp [Scan.step, opening, closing]

theorem depth_step {text : Text} {start position : Nat} {scan : Scan} {character : Char}
    (mode : scan.mode = modeAt text start position) (found : text[position]? = some character) :
    (scan.step character).depth =
      scan.depth + (if standsAt text start position '(' = true then 1 else 0) -
        (if standsAt text start position ')' = true then 1 else 0) := by
  simp only [standsAt_iff, found, Option.some.injEq, ← mode, depth_step_eq]

theorem not_both_stand (text : Text) (start position : Nat) :
    standsAt text start position '(' = true → standsAt text start position ')' = false := by
  intro opens
  rw [standsAt_iff] at opens
  rw [standsAt, opens.1]
  rfl

theorem plain_of_quote? {mode : Mode} (closed : mode.quote? = none) : mode = .plain := by
  cases mode with
  | plain => rfl
  | quoted => cases closed

/-! ## How a search ends -/

/-- What there is to be found, for each way in which the search ends. -/
inductive Ends (text : Text) (start : Nat) : Search → Prop
  | closed {opening closing : Nat} (opens : Opens text start opening)
      (balances : Balances text start opening closing) :
      Ends text start (.found ⟨opening, closing⟩)
  | leftOpen {opening : Nat} (opens : Opens text start opening)
      (never : ∀ closing, ¬ Balances text start opening closing)
      (outside : modeAt text start text.length = .plain) :
      Ends text start (.found ⟨opening, text.length⟩)
  | absent (never : ∀ opening, ¬ Opens text start opening)
      (outside : modeAt text start text.length = .plain) : Ends text start .absent
  | unterminated {quote : Char}
      (never : ∀ opening closing, Opens text start opening →
        ¬ Balances text start opening closing)
      (quoted : (modeAt text start text.length).quote? = some quote) :
      Ends text start (.unterminated quote)

section Unique

variable {text : Text} {start opening closing : Nat}

theorem Opens.unique {other : Nat} (opens : Opens text start opening)
    (otherOpens : Opens text start other) : opening = other := by
  rcases Nat.lt_trichotomy opening other with before | same | behind
  · exact absurd opens.stands (by simp [otherOpens.first opening before opens.later])
  · exact same
  · exact absurd otherOpens.stands (by simp [opens.first other behind otherOpens.later])

theorem Balances.unique {other : Nat} (balances : Balances text start opening closing)
    (otherBalances : Balances text start opening other) : closing = other := by
  rcases Nat.lt_trichotomy closing other with before | same | behind
  · exact absurd balances.even (otherBalances.first closing before balances.later)
  · exact same
  · exact absurd otherBalances.even (balances.first other behind otherBalances.later)

end Unique

section Search

variable {text : Text} {start opening position : Nat} {scan : Scan}

theorem found_of_drop {character : Char} {rest : Text}
    (left : text.drop position = character :: rest) :
    text[position]? = some character ∧ text.drop (position + 1) = rest := by
  have here : (text.drop position)[0]? = some character := by rw [left]; rfl
  rw [List.getElem?_drop, Nat.add_zero] at here
  refine ⟨here, ?_⟩
  rw [← List.drop_drop, left, List.drop_succ_cons, List.drop_zero]

theorem eq_length_of_drop (bound : position ≤ text.length) (left : text.drop position = []) :
    position = text.length :=
  Nat.le_antisymm bound (List.drop_eq_nil_iff.mp left)

/-- In a group: the depth is what is open since its start, and it has not been even yet. -/
theorem ends_inside (opens : Opens text start opening) (later : opening < position)
    (bound : position ≤ text.length) (mode : scan.mode = modeAt text start position)
    (within : scan.depth ≠ 0)
    (level : scan.depth + occurrences text start ')' opening position =
      occurrences text start '(' opening position)
    (uneven : ∀ index, index < position → opening < index →
      ¬ IsEven text start opening index) :
    Ends text start (searchFrom scan (some opening) position (text.drop position)) := by
  generalize left : text.drop position = rest
  induction rest generalizing scan position with
  | nil =>
      cases eq_length_of_drop bound left
      have never (closing : Nat) : ¬ Balances text start opening closing :=
        fun balances => uneven closing balances.within balances.later balances.even
      simp only [searchFrom, searchEnd, mode]
      cases quote : (modeAt text start text.length).quote? with
      | none => exact .leftOpen opens never (plain_of_quote? quote)
      | some quote =>
          refine .unterminated (fun other closing otherOpens => ?_) quote
          rw [otherOpens.unique opens]
          exact never closing
  | cons character rest induction =>
      rcases found_of_drop left with ⟨found, left⟩
      have depth := depth_step mode found
      have openings := occurrences_succ (Nat.le_of_lt later) text start '('
      have closings := occurrences_succ (Nat.le_of_lt later) text start ')'
      have exclusive := not_both_stand text start position
      have level : (scan.step character).depth +
          occurrences text start ')' opening (position + 1) =
            occurrences text start '(' opening (position + 1) := by
        rw [depth, openings, closings]
        split <;> split <;> omega
      simp only [searchFrom]
      split
      · rename_i closes
        rw [closes, Nat.zero_add] at level
        exact .closed opens ⟨later, (List.getElem?_eq_some_iff.mp found).1, level.symm, uneven⟩
      · rename_i still
        have mode : (scan.step character).mode = modeAt text start (position + 1) := by
          rw [mode_step, mode, modeAt_succ (Nat.le_trans opens.later (Nat.le_of_lt later)) found]
        refine induction (Nat.lt_succ_of_lt later) ?_ mode still level ?_ left
        · exact (List.getElem?_eq_some_iff.mp found).1
        · intro index before behind
          rcases Nat.lt_succ_iff_lt_or_eq.mp before with earlier | rfl
          · exact uneven index earlier behind
          · rw [IsEven]
            omega

/-- Before any group: nothing is open, and no parenthesis has been opened outside of quotes. -/
theorem ends_outside (later : start ≤ position) (bound : position ≤ text.length)
    (mode : scan.mode = modeAt text start position) (outside : scan.depth = 0)
    (unopened : ∀ index, index < position → start ≤ index →
      standsAt text start index '(' = false) :
    Ends text start (searchFrom scan none position (text.drop position)) := by
  generalize left : text.drop position = rest
  induction rest generalizing scan position with
  | nil =>
      cases eq_length_of_drop bound left
      have never (opening : Nat) : ¬ Opens text start opening := by
        intro opens
        have within := (List.getElem?_eq_some_iff.mp (standsAt_iff.mp opens.stands).1).1
        have stands := opens.stands
        rw [unopened opening within opens.later] at stands
        cases stands
      simp only [searchFrom, searchEnd, mode]
      cases quote : (modeAt text start text.length).quote? with
      | none => exact .absent never (plain_of_quote? quote)
      | some quote =>
          exact .unterminated (fun opening _ opens => absurd opens (never opening)) quote
  | cons character rest induction =>
      rcases found_of_drop left with ⟨found, left⟩
      have depth := depth_step mode found
      have exclusive := not_both_stand text start position
      have within := (List.getElem?_eq_some_iff.mp found).1
      have mode : (scan.step character).mode = modeAt text start (position + 1) := by
        rw [mode_step, mode, modeAt_succ later found]
      simp only [searchFrom]
      split
      · rename_i still
        refine induction (Nat.le_succ_of_le later) within mode still ?_ left
        intro index before behind
        rcases Nat.lt_succ_iff_lt_or_eq.mp before with earlier | rfl
        · exact unopened index earlier behind
        · cases stands : standsAt text start index '(' with
          | false => rfl
          | true => simp [depth, outside, stands, exclusive stands] at still
      · rename_i opened
        have stands : standsAt text start position '(' = true := by
          cases stands : standsAt text start position '(' with
          | false => simp [depth, outside, stands] at opened
          | true => rfl
        have openings := occurrences_succ (Nat.le_refl position) text start '('
        have closings := occurrences_succ (Nat.le_refl position) text start ')'
        rw [← left]
        refine ends_inside ⟨later, stands, unopened⟩ (Nat.lt_succ_self position) within mode
          opened ?_ ?_
        · rw [openings, closings, occurrences_self, occurrences_self, depth, outside,
            exclusive stands, stands]
          rfl
        · exact fun _ before behind => by omega

/-- The search from a position on ends as the text behind it says. -/
theorem ends_search (bound : start ≤ text.length) :
    Ends text start (searchFrom Scan.start none start (text.drop start)) :=
  ends_outside (Nat.le_refl start) bound (modeAt_start text start).symm rfl
    fun _ before behind => absurd before (Nat.not_lt.mpr behind)

end Search

/-! ## What is found -/

section Found

variable {text : Text} {start opening closing : Nat}

theorem findGroup_eq_found {group : Group} :
    findGroup text start = .ok (some group) ↔
      searchFrom Scan.start none start (text.drop start) = .found group := by
  rw [findGroup]
  cases searchFrom Scan.start none start (text.drop start) <;> simp

theorem findGroup_eq_absent :
    findGroup text start = .ok none ↔
      searchFrom Scan.start none start (text.drop start) = .absent := by
  rw [findGroup]
  cases searchFrom Scan.start none start (text.drop start) <;> simp

theorem findGroup_eq_unterminated {fault : Fault} :
    findGroup text start = .error fault ↔
      ∃ quote, searchFrom Scan.start none start (text.drop start) = .unterminated quote ∧
        fault = .unterminatedQuote quote text := by
  rw [findGroup]
  cases searchFrom Scan.start none start (text.drop start) <;> simp [eq_comm]

/-- Every group that is found opens and closes where the first group does, or is left open. -/
theorem Ends.found_iff {search : Search} (ends : Ends text start search)
    (within : closing < text.length) :
    search = .found ⟨opening, closing⟩ ↔
      Opens text start opening ∧ Balances text start opening closing := by
  constructor
  · rintro rfl
    cases ends with
    | closed opens balances => exact ⟨opens, balances⟩
    | leftOpen => exact absurd within (Nat.lt_irrefl _)
  · rintro ⟨opens, balances⟩
    cases ends with
    | closed otherOpens otherBalances =>
        cases otherOpens.unique opens
        rw [otherBalances.unique balances]
    | leftOpen otherOpens never =>
        cases otherOpens.unique opens
        exact absurd balances (never closing)
    | absent never => exact absurd opens (never opening)
    | unterminated never => exact absurd balances (never opening closing opens)

theorem Ends.leftOpen_iff {search : Search} (ends : Ends text start search) :
    search = .found ⟨opening, text.length⟩ ↔
      Opens text start opening ∧ (∀ closing, ¬ Balances text start opening closing) ∧
        modeAt text start text.length = .plain := by
  constructor
  · rintro rfl
    cases ends with
    | closed _ balances => exact absurd balances.within (Nat.lt_irrefl _)
    | leftOpen opens never outside => exact ⟨opens, never, outside⟩
  · rintro ⟨opens, never, outside⟩
    cases ends with
    | closed otherOpens balances =>
        cases otherOpens.unique opens
        exact absurd balances (never _)
    | leftOpen otherOpens => rw [otherOpens.unique opens]
    | absent none => exact absurd opens (none opening)
    | unterminated _ quoted =>
        rw [outside] at quoted
        cases quoted

theorem Ends.absent_iff {search : Search} (ends : Ends text start search) :
    search = .absent ↔
      (∀ opening, ¬ Opens text start opening) ∧ modeAt text start text.length = .plain := by
  constructor
  · rintro rfl
    cases ends with
    | absent never outside => exact ⟨never, outside⟩
  · rintro ⟨never, outside⟩
    cases ends with
    | closed opens | leftOpen opens => exact absurd opens (never _)
    | absent => rfl
    | unterminated _ quoted =>
        rw [outside] at quoted
        cases quoted

theorem Ends.unterminated_iff {search : Search} (ends : Ends text start search) {quote : Char} :
    search = .unterminated quote ↔
      (∀ opening closing, Opens text start opening → ¬ Balances text start opening closing) ∧
        (modeAt text start text.length).quote? = some quote := by
  constructor
  · rintro rfl
    cases ends with
    | unterminated never quoted => exact ⟨never, quoted⟩
  · rintro ⟨never, quoted⟩
    cases ends with
    | closed opens balances => exact absurd balances (never _ _ opens)
    | leftOpen _ _ outside | absent _ outside =>
        rw [outside] at quoted
        cases quoted
    | unterminated _ other =>
        rw [other] at quoted
        rw [Option.some.inj quoted]

end Found

/-! ## What is known of a group -/

section Group

variable {text : Text} {start opening : Nat}

/-- In front of the first even position more parentheses open than close. -/
theorem Opens.closings_lt (opens : Opens text start opening) {stop : Nat}
    (uneven : ∀ index, index < stop → opening < index → ¬ IsEven text start opening index)
    {index : Nat} (from_ : opening ≤ index) (before : index < stop) :
    occurrences text start ')' opening (index + 1) <
      occurrences text start '(' opening (index + 1) := by
  rcases Nat.exists_eq_add_of_le from_ with ⟨distance, rfl⟩
  induction distance with
  | zero =>
      have later : opening ≤ opening + 0 := Nat.le_refl opening
      rw [occurrences_succ later, occurrences_succ later, Nat.add_zero, occurrences_self,
        occurrences_self, opens.stands, not_both_stand _ _ _ opens.stands]
      decide
  | succ distance induction =>
      have earlier := induction (Nat.le_add_right opening distance) (Nat.lt_of_succ_lt before)
      have different := uneven _ before (Nat.lt_add_of_pos_right (Nat.succ_pos distance))
      have openings := occurrences_succ from_ text start '('
      have closings := occurrences_succ from_ text start ')'
      rw [IsEven] at different
      rw [← Nat.add_assoc] at openings closings different ⊢
      split at closings <;> split at openings <;> omega

/-- The parenthesis that makes the parentheses even is one that closes. -/
theorem Balances.stands {closing : Nat} (opens : Opens text start opening)
    (balances : Balances text start opening closing) :
    standsAt text start closing ')' = true := by
  rcases Nat.exists_eq_add_of_lt balances.later with ⟨between, rfl⟩
  have open_ := opens.closings_lt balances.first (Nat.le_add_right opening between)
    (Nat.lt_succ_self _)
  have even := balances.even
  have openings := occurrences_succ (Nat.le_of_lt balances.later) text start '('
  have closings := occurrences_succ (Nat.le_of_lt balances.later) text start ')'
  rw [IsEven] at even
  cases stands : standsAt text start (opening + between + 1) ')' with
  | true => rfl
  | false =>
      rw [stands] at closings
      split at openings <;> simp at closings <;> omega

end Group

/-! ## Groups of the rest of a text -/

/-- The same group, counted from `distance` characters earlier. -/
def Group.shift (distance : Nat) (group : Group) : Group :=
  ⟨distance + group.opening, distance + group.closing⟩

/-- The same end of a search, counted from `distance` characters earlier. -/
def Search.shift (distance : Nat) : Search → Search
  | .found group => .found (group.shift distance)
  | .absent => .absent
  | .unterminated quote => .unterminated quote

theorem searchFrom_shift (distance : Nat) (scan : Scan) (opening : Option Nat)
    (position : Nat) (text : Text) :
    searchFrom scan (opening.map (distance + ·)) (distance + position) text =
      (searchFrom scan opening position text).shift distance := by
  induction text generalizing scan opening position with
  | nil =>
      simp only [searchFrom, searchEnd]
      cases scan.mode.quote? <;> cases opening <;> rfl
  | cons character text induction =>
      have later := fun opening => induction (scan.step character) opening (position + 1)
      cases opening with
      | none =>
          simp only [searchFrom, Option.map_none]
          split
          · exact later none
          · exact later (some position)
      | some opened =>
          simp only [searchFrom, Option.map_some]
          split
          · rfl
          · exact later (some opened)

theorem search_drop (text : Text) (start : Nat) :
    searchFrom Scan.start none start (text.drop start) =
      (searchFrom Scan.start none 0 (text.drop start)).shift start :=
  searchFrom_shift start Scan.start none 0 (text.drop start)

/-- The search behind `start` is that of the text behind `start`.  Only the fault tells more:
it quotes the whole text. -/
theorem findGroup_drop (text : Text) (start : Nat) :
    (∀ found, findGroup text start = .ok found ↔
      ∃ group, findGroup (text.drop start) 0 = .ok group ∧ found = group.map (·.shift start)) ∧
    ∀ quote, findGroup text start = .error (.unterminatedQuote quote text) ↔
      findGroup (text.drop start) 0 = .error (.unterminatedQuote quote (text.drop start)) := by
  rw [findGroup, findGroup, List.drop_zero, search_drop]
  cases searchFrom Scan.start none 0 (text.drop start) <;> simp [Search.shift, eq_comm]

/-- Which group is found, and when there is none.  The four ways in which a search ends exclude
one another, and one of them always holds. -/
theorem first_group_is_found {text : Text} {start : Nat} (bound : start ≤ text.length) :
    (∀ opening closing, closing < text.length →
      (findGroup text start = .ok (some ⟨opening, closing⟩) ↔
        Opens text start opening ∧ Balances text start opening closing)) ∧
    (∀ opening closing, Opens text start opening → Balances text start opening closing →
      text[opening]? = some '(' ∧ text[closing]? = some ')' ∧
        modeAt text start opening = .plain ∧ modeAt text start closing = .plain ∧
        ∀ index, opening ≤ index → index < closing →
          occurrences text start ')' opening (index + 1) <
            occurrences text start '(' opening (index + 1)) ∧
    (∀ opening, findGroup text start = .ok (some ⟨opening, text.length⟩) ↔
      Opens text start opening ∧ (∀ closing, ¬ Balances text start opening closing) ∧
        modeAt text start text.length = .plain) ∧
    (findGroup text start = .ok none ↔
      (∀ opening, ¬ Opens text start opening) ∧ modeAt text start text.length = .plain) ∧
    (∀ fault, findGroup text start = .error fault ↔
      (∀ opening closing, Opens text start opening → ¬ Balances text start opening closing) ∧
        ∃ quote, (modeAt text start text.length).quote? = some quote ∧
          fault = .unterminatedQuote quote text ∧ fault.label = "SchemaParseError") ∧
    (∀ found, findGroup text start = .ok found ↔
      ∃ group, findGroup (text.drop start) 0 = .ok group ∧ found = group.map (·.shift start)) ∧
    ∀ quote, findGroup text start = .error (.unterminatedQuote quote text) ↔
      findGroup (text.drop start) 0 = .error (.unterminatedQuote quote (text.drop start)) := by
  have ends := ends_search bound
  refine ⟨fun opening closing within => ?_, fun opening closing opens balances => ?_,
    fun opening => ?_, ?_, fun fault => ?_, findGroup_drop text start⟩
  · rw [findGroup_eq_found, ends.found_iff within]
  · have closes := standsAt_iff.mp (balances.stands opens)
    have stands := standsAt_iff.mp opens.stands
    exact ⟨stands.1, closes.1, stands.2, closes.2,
      fun index from_ before => opens.closings_lt balances.first from_ before⟩
  · rw [findGroup_eq_found, ends.leftOpen_iff]
  · rw [findGroup_eq_absent, ends.absent_iff]
  · rw [findGroup_eq_unterminated]
    constructor
    · rintro ⟨quote, sought, rfl⟩
      rcases ends.unterminated_iff.mp sought with ⟨never, quoted⟩
      exact ⟨never, quote, quoted, rfl, rfl⟩
    · rintro ⟨never, quote, quoted, rfl, -⟩
      exact ⟨quote, ends.unterminated_iff.mpr ⟨never, quoted⟩, rfl⟩

/-- A closing parenthesis in front, one in quotes and an escaped quote mislead nobody. -/
theorem first_group_is_found_behind_stray_parenthesis :
    2 ≤ ")x)('\\')' ())".toList.length ∧
      findGroup ")x)('\\')' ())" 2 = .ok (some ⟨3, 12⟩) := by
  have bound : 2 ≤ ")x)('\\')' ())".toList.length := by decide
  have opens : Opens ")x)('\\')' ())" 2 3 := ⟨by decide, by decide, by decide⟩
  have balances : Balances ")x)('\\')' ())" 2 3 12 :=
    ⟨by decide, by decide, by decide, by decide⟩
  exact ⟨bound, ((first_group_is_found bound).1 3 12 balances.within).mpr ⟨opens, balances⟩⟩

end Sql

end SchemaSeed
