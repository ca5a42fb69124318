import SchemaSeed.Proofs.Sql.Legible

/-! Masking and the removal of comments beside the scan.  On text that the scan leaves outside of
quotes, masking finds its literals exactly if no literal starts to it inside of a name, and the
removal of comments finds its literals and its names exactly if no backslash takes a backtick
along inside of a name. -/

namespace SchemaSeed

namespace Sql

/-- What holds wherever a scan stands in a text, given its mode and the text that is left. -/
def Throughout (holds : Mode → Text → Prop) (mode : Mode) : Text → Prop
  | [] => True
  | character :: rest =>
      holds mode (character :: rest) ∧ Throughout holds (mode.step character) rest

instance decidableThroughout (holds : Mode → Text → Prop)
    [known : ∀ mode text, Decidable (holds mode text)] :
    (mode : Mode) → (text : Text) → Decidable (Throughout holds mode text)
  | _, [] => .isTrue trivial
  | mode, character :: rest =>
      have := decidableThroughout holds (mode.step character) rest
      inferInstanceAs (Decidable (holds mode (character :: rest) ∧ _))

/-- Inside of a name no literal starts. -/
def SilentAt (mode : Mode) (text : Text) : Prop :=
  mode.quote? = some backtick → literalLength? text = none

/-- Inside of a name no backslash takes a backtick along. -/
def WholeAt (mode : Mode) (text : Text) : Prop :=
  mode = .quoted backtick true → text.head? ≠ some backtick

instance (mode : Mode) (text : Text) : Decidable (SilentAt mode text) :=
  inferInstanceAs (Decidable (_ → _))

instance (mode : Mode) (text : Text) : Decidable (WholeAt mode text) :=
  inferInstanceAs (Decidable (_ → _))

abbrev SilentNames (text : Text) : Prop :=
  Throughout SilentAt .plain text

abbrev WholeNames (text : Text) : Prop :=
  Throughout WholeAt .plain text

/-! ## Names and all that is none -/

/-- What is said of names only. -/
def OfNames (holds : Mode → Text → Prop) : Prop :=
  ∀ mode text, mode.quote? ≠ some backtick → holds mode text

theorem ofNames_silentAt : OfNames SilentAt := fun _ _ other name => absurd name other

theorem ofNames_wholeAt : OfNames WholeAt := by
  rintro mode text other rfl
  exact absurd rfl other

section Pieces

variable {holds : Mode → Text → Prop} (ofNames : OfNames holds)

include ofNames

theorem throughout_plain {character : Char} (unquoted : isQuote character = false) (rest : Text) :
    Throughout holds .plain (character :: rest) ↔ Throughout holds .plain rest := by
  rw [Throughout, Mode.step_unquoted unquoted]
  exact and_iff_right (ofNames _ _ (by rintro ⟨⟩))

theorem throughout_open {quote : Char} (opens : isQuote quote = true) (rest : Text) :
    Throughout holds .plain (quote :: rest) ↔ Throughout holds (.quoted quote false) rest := by
  rw [Throughout, Mode.step_open opens]
  exact and_iff_right (ofNames _ _ (by rintro ⟨⟩))

theorem throughout_content {quote : Char} {content : Text} (complete : Complete quote content)
    (opens : isQuote quote = true) (noName : quote ≠ backtick) (rest : Text) :
    Throughout holds (.quoted quote false) (content ++ quote :: rest) ↔
      Throughout holds .plain rest := by
  have noEscape := ne_backslash_of_isQuote opens
  have silent (escaped : Bool) (text : Text) : holds (.quoted quote escaped) text :=
    ofNames _ _ fun same => noName (Option.some.inj same)
  induction complete with
  | nil => simp [Throughout, silent, Mode.step_close noEscape]
  | plain different noBackslash _ induction =>
      simp [Throughout, silent, Mode.step_inside different noBackslash, induction]
  | escaped _ induction =>
      simp [Throughout, silent, Mode.step_backslash, Mode.step_escaped, induction]
  | doubled _ induction =>
      have between (text : Text) : holds .plain text := ofNames _ _ (by rintro ⟨⟩)
      simp [Throughout, silent, between, Mode.step_close noEscape, Mode.step_open opens, induction]

theorem throughout_literal {quote : Char} {content : Text} (opens : quote = '\'' ∨ quote = '"')
    (complete : Complete quote content) (rest : Text) :
    Throughout holds .plain (quote :: content ++ quote :: rest) ↔
      Throughout holds .plain rest := by
  rw [List.cons_append, throughout_open ofNames (isQuote_of_opens opens),
    throughout_content ofNames complete (isQuote_of_opens opens) (ne_backtick_of_opens opens)]

end Pieces

theorem literalLength?_backtick (rest : Text) : literalLength? (backtick :: rest) = none := by
  simp [literalLength?, backtick]

theorem silentNames_name {name : Text} (enclosed : Enclosed backtick name) (rest : Text) :
    SilentNames (backtick :: name ++ backtick :: rest) ↔
      Silent literalLength? name (backtick :: rest) ∧ SilentNames rest := by
  rw [SilentNames, List.cons_append, throughout_open ofNames_silentAt (by decide)]
  have known (escaped : Bool) (text : Text) :
      SilentAt (.quoted backtick escaped) text ↔ literalLength? text = none := by
    simp [SilentAt, Mode.quote?]
  induction enclosed with
  | nil =>
      have closes : (Mode.quoted backtick false).step backtick = .plain := by decide
      simp [Throughout, known, closes, literalLength?_backtick, Silent]
  | plain different noEscape _ induction =>
      simp [Throughout, known, Mode.step_inside different noEscape, induction, Silent, and_assoc]
  | escaped _ induction =>
      simp [Throughout, known, Mode.step_backslash, Mode.step_escaped, induction, Silent,
        and_assoc]

theorem wholeNames_name {name : Text} (enclosed : Enclosed backtick name) (rest : Text) :
    WholeNames (backtick :: name ++ backtick :: rest) ↔ backtick ∉ name ∧ WholeNames rest := by
  rw [WholeNames, List.cons_append, throughout_open ofNames_wholeAt (by decide)]
  have unescaped (text : Text) : WholeAt (.quoted backtick false) text := by
    rintro ⟨⟩
  induction enclosed with
  | nil =>
      have closes : (Mode.quoted backtick false).step backtick = .plain := by decide
      simp [Throughout, unescaped, closes]
  | plain different noEscape _ induction =>
      simp [Throughout, unescaped, Mode.step_inside different noEscape, induction,
        Ne.symm different]
  | escaped _ induction =>
      have noBackslash : backtick ≠ '\\' := by decide
      simp [Throughout, Mode.step_backslash, Mode.step_escaped, induction, WholeAt, noBackslash,
        and_assoc, eq_comm]

/-! ## Masks -/

theorem maskedFrom_length (part rest : Text) :
    maskedFrom part.length (part ++ rest) =
      List.replicate part.length .literal ++ maskedFrom 0 rest := by
  induction part with
  | nil => rfl
  | cons character part induction => exact congrArg (Mark.literal :: ·) induction

theorem masked_silent {part rest : Text} (silent : Silent literalLength? part rest) :
    masked (part ++ rest) = List.replicate part.length .code ++ masked rest := by
  induction part with
  | nil => rfl
  | cons character part induction =>
      have later := induction silent.2
      rw [masked] at later ⊢
      simp only [List.cons_append, maskedFrom, silent.1, later]
      rfl

/-- A part that masking takes for no literal is silent. -/
theorem silent_of_literals {part rest : Text} {others : List Bool}
    (unmarked : literals (masked (part ++ rest)) = List.replicate part.length false ++ others) :
    Silent literalLength? part rest := by
  induction part with
  | nil => trivial
  | cons character part induction =>
      rw [masked, List.cons_append, maskedFrom] at unmarked
      cases literal : literalLength? (character :: (part ++ rest)) with
      | some length =>
          rw [literal] at unmarked
          cases (List.cons_eq_cons.mp unmarked).1
      | none =>
          rw [literal] at unmarked
          exact ⟨literal, induction (List.cons_eq_cons.mp unmarked).2⟩

theorem masked_literal {quote : Char} {content rest : Text} (opens : quote = '\'' ∨ quote = '"')
    (complete : Complete quote content) (single : rest.head? ≠ some quote) :
    masked (quote :: content ++ quote :: rest) =
      .opening :: List.replicate (content.length + 1) .literal ++ masked rest := by
  have literal := complete.literalLength? opens single
  have skipped := maskedFrom_length (content ++ [quote]) rest
  rw [List.cons_append] at literal
  simp only [List.append_assoc, List.singleton_append, List.length_append,
    List.length_singleton] at skipped
  simp only [masked, List.cons_append, maskedFrom, literal]
  rw [show content.length + 2 - 1 = content.length + 1 from rfl, skipped]

/-- Where no literal starts in a name, masking sets the marks of the scan, names apart. -/
theorem Legible.masked_eq {text : Text} (legible : Legible text) (silent : SilentNames text) :
    masked text = (scanned text).map Mark.nameless := by
  induction legible with
  | nil => rfl
  | @plain character rest unquoted _ induction =>
      have later := induction ((throughout_plain ofNames_silentAt unquoted _).mp silent)
      have alone : Silent literalLength? [character] rest :=
        ⟨literalLength?_of_head unquoted rest, trivial⟩
      have first := masked_silent alone
      rw [List.singleton_append] at first
      rw [first, scanned_plain unquoted, later]
      rfl
  | literal opens complete single _ induction =>
      have later := induction ((throughout_literal ofNames_silentAt opens complete _).mp silent)
      rw [masked_literal opens complete single, scanned_literal opens complete single, later]
      simp [Mark.nameless]
  | @name name rest enclosed _ induction =>
      rcases (silentNames_name enclosed rest).mp silent with ⟨inside, after⟩
      have closing : Silent literalLength? (name ++ [backtick]) rest :=
        silent_append.mpr ⟨inside, literalLength?_backtick rest, trivial⟩
      have whole : Silent literalLength? (backtick :: name ++ [backtick]) rest :=
        ⟨literalLength?_backtick _, closing⟩
      rw [quoted_append, masked_silent whole, ← quoted_append, scanned_name enclosed,
        induction after]
      simp [Mark.nameless]

/-- Masking finds the literals of the scan only if no literal starts in a name. -/
theorem Legible.silentNames {text : Text} (legible : Legible text)
    (same : literals (masked text) = literals (scanned text)) : SilentNames text := by
  induction legible with
  | nil => trivial
  | @plain character rest unquoted _ induction =>
      have alone : Silent literalLength? [character] rest :=
        ⟨literalLength?_of_head unquoted rest, trivial⟩
      have first := masked_silent alone
      rw [List.singleton_append] at first
      rw [first, scanned_plain unquoted] at same
      exact (throughout_plain ofNames_silentAt unquoted _).mpr
        (induction (List.cons_eq_cons.mp same).2)
  | literal opens complete single _ induction =>
      rw [masked_literal opens complete single, scanned_literal opens complete single] at same
      refine (throughout_literal ofNames_silentAt opens complete _).mpr (induction ?_)
      simpa [literals] using same
  | @name name rest enclosed _ induction =>
      have count : (backtick :: name ++ [backtick]).length = name.length + 2 := by simp
      have marks : literals (scanned (backtick :: name ++ backtick :: rest)) =
          List.replicate (backtick :: name ++ [backtick]).length false ++
            literals (scanned rest) := by
        rw [scanned_name enclosed, count]
        simp [literals, Mark.isLiteral]
      rw [quoted_append] at same marks
      have whole := silent_of_literals (same.trans marks)
      rw [masked_silent whole, marks] at same
      have inside : Silent literalLength? (name ++ [backtick]) rest := whole.2
      refine (silentNames_name enclosed rest).mpr ⟨(silent_append.mp inside).1, induction ?_⟩
      simpa [literals, Mark.isLiteral] using same

/-! ## Comments -/

theorem readFrom_length (previous : Option Char) (mark : Mark) (part rest : Text) :
    readFrom previous part.length mark (part ++ rest) =
      List.replicate part.length mark ++ readFrom (part.getLast?.or previous) 0 .code rest := by
  induction part generalizing previous with
  | nil => exact readFrom_finished previous mark rest
  | cons character part induction =>
      have step : readFrom previous (character :: part).length mark (character :: part ++ rest) =
          mark :: readFrom (some character) part.length mark (part ++ rest) := rfl
      rw [step, induction, List.length_cons, List.replicate_succ, List.cons_append]
      congr 3
      cases part <;> simp [List.getLast?_cons]

theorem readFrom_piece {previous : Option Char} {first later : Mark} {part rest : Text}
    (nonempty : part ≠ []) (piece : pieceAt previous (part ++ rest) = ⟨part.length, true⟩)
    (marks : pieceMarks previous (part ++ rest) = (first, later)) : ∃ last,
      readFrom previous 0 .code (part ++ rest) =
        first :: List.replicate (part.length - 1) later ++ readFrom last 0 .code rest := by
  rcases List.exists_cons_of_ne_nil nonempty with ⟨character, part, rfl⟩
  rw [List.cons_append] at piece marks ⊢
  rw [readFrom, piece, marks]
  exact ⟨_, congrArg (first :: ·) (readFrom_length _ later part rest)⟩

theorem readFrom_literal {quote : Char} {content rest : Text} (opens : quote = '\'' ∨ quote = '"')
    (complete : Complete quote content) (single : rest.head? ≠ some quote)
    (previous : Option Char) : ∃ last,
      readFrom previous 0 .code (quote :: content ++ quote :: rest) =
        .opening :: List.replicate (content.length + 1) .literal ++
          readFrom last 0 .code rest := by
  have literal := complete.literalLength? opens single
  rw [quoted_append] at literal ⊢
  have piece := pieceAt_literal opens complete single previous
  have marks : pieceMarks previous (quote :: content ++ [quote] ++ rest) =
      (.opening, .literal) := by
    simp only [pieceMarks, piece, literal, Bool.true_eq_false, if_false, Option.isSome_some,
      if_true]
  rcases readFrom_piece (by simp) piece marks with ⟨last, read⟩
  exact ⟨last, by simpa using read⟩

/-- To the removal of comments, the first backtick closes a name. -/
theorem readFrom_name {name : Text} (inside : backtick ∉ name) (rest : Text)
    (previous : Option Char) : ∃ last,
      readFrom previous 0 .code (backtick :: name ++ backtick :: rest) =
        List.replicate (name.length + 2) .name ++ readFrom last 0 .code rest := by
  have known : ∀ character ∈ name, character ≠ backtick := by
    rintro character member rfl
    exact inside member
  have quoted : backtickedLength? (backtick :: name ++ backtick :: rest) =
      some (name.length + 2) := by
    have content : (name ++ backtick :: rest).takeWhile (· != backtick) = name := by
      rw [List.takeWhile_append_of_pos (by simpa using known)]
      simp
    simp [backtickedLength?, content]
  have noLiteral := literalLength?_backtick (name ++ backtick :: rest)
  rw [← List.cons_append, quoted_append] at noLiteral
  rw [quoted_append] at quoted ⊢
  have piece := pieceAt_name known rest previous
  have marks : pieceMarks previous (backtick :: name ++ [backtick] ++ rest) =
      (.name, .name) := by
    simp only [pieceMarks, piece, noLiteral, quoted, Bool.true_eq_false, Bool.false_eq_true,
      if_false, Option.isSome_some, Option.isSome_none, if_true]
  rcases readFrom_piece (by simp) piece marks with ⟨last, read⟩
  exact ⟨last, by simpa [List.replicate_succ] using read⟩

/-- What the removal of comments takes from the start of a text that starts with no comment. -/
theorem readFrom_cases {previous : Option Char} {character : Char} {rest : Text}
    (kept : (readFrom previous 0 .code (character :: rest)).head? ≠ some .comment) :
    ((literalLength? (character :: rest)).isSome = true ∧ ∃ length,
      readFrom previous 0 .code (character :: rest) =
        .opening :: readFrom (some character) length .literal rest) ∨
    ((backtickedLength? (character :: rest)).isSome = true ∧ ∃ length,
      readFrom previous 0 .code (character :: rest) =
        .name :: readFrom (some character) length .name rest) ∨
    readFrom previous 0 .code (character :: rest) =
      .code :: readFrom (some character) 0 .code rest := by
  rcases pieceMarks_cases previous (character :: rest) with ⟨-, removed⟩ | ⟨keeps, -⟩
  · rw [readFrom, removed] at kept
    exact absurd rfl kept
  · cases literal : literalLength? (character :: rest) with
    | some length =>
        have marks : pieceMarks previous (character :: rest) = (.opening, .literal) := by
          simp [pieceMarks, keeps, literal]
        exact .inl ⟨rfl, _, by rw [readFrom, marks]⟩
    | none =>
        cases name : backtickedLength? (character :: rest) with
        | some length =>
            have marks : pieceMarks previous (character :: rest) = (.name, .name) := by
              simp [pieceMarks, keeps, literal, name]
            exact .inr (.inl ⟨rfl, _, by rw [readFrom, marks]⟩)
        | none =>
            have marks : pieceMarks previous (character :: rest) = (.code, .code) := by
              simp [pieceMarks, keeps, literal, name]
            have piece : pieceAt previous (character :: rest) = ⟨1, true⟩ := by
              simp only [pieceAt, literal, name, Option.or_none] at keeps ⊢
              cases note : annotationLength? previous (character :: rest) with
              | some length => simp [note] at keeps
              | none =>
                  cases removed :
                      (blockLength? (character :: rest)).or (lineLength? (character :: rest)) with
                  | some length => simp [note, removed] at keeps
                  | none => rfl
            exact .inr (.inr (by simp only [readFrom, piece, marks]))

/-- Outside of quotes a character is code or part of what is removed. -/
theorem readFrom_plain {previous : Option Char} {character : Char} {rest : Text}
    (unquoted : isQuote character = false)
    (kept : (readFrom previous 0 .code (character :: rest)).head? ≠ some .comment) :
    readFrom previous 0 .code (character :: rest) =
      .code :: readFrom (some character) 0 .code rest := by
  rcases readFrom_cases kept with ⟨opens, -⟩ | ⟨opens, -⟩ | read
  · rw [literalLength?_of_head unquoted] at opens
    cases opens
  · rw [backtickedLength?, if_neg (by rintro rfl; cases unquoted)] at opens
    cases opens
  · exact read

/-- Where no backtick is taken along in a name, the removal of comments sets the marks of the
scan, comments apart. -/
theorem Legible.readFrom_eq {text : Text} (legible : Legible text) (whole : WholeNames text)
    {previous : Option Char} (code : Mark.comment ∉ readFrom previous 0 .code text) :
    readFrom previous 0 .code text = scanned text := by
  induction legible generalizing previous with
  | nil => rfl
  | @plain character rest unquoted _ induction =>
      have kept : (readFrom previous 0 .code (character :: rest)).head? ≠ some .comment :=
        fun head => code (List.mem_of_head? head)
      have first := readFrom_plain unquoted kept
      rw [first] at code ⊢
      rw [scanned_plain unquoted, induction ((throughout_plain ofNames_wholeAt unquoted _).mp whole)
        fun member => code (List.mem_cons_of_mem _ member)]
  | literal opens complete single _ induction =>
      rcases readFrom_literal opens complete single previous with ⟨last, read⟩
      rw [read] at code ⊢
      rw [scanned_literal opens complete single, induction
        ((throughout_literal ofNames_wholeAt opens complete _).mp whole)
        fun member => code (List.mem_append_right _ member)]
  | @name name rest enclosed _ induction =>
      rcases (wholeNames_name enclosed rest).mp whole with ⟨inside, after⟩
      rcases readFrom_name inside rest previous with ⟨last, read⟩
      rw [read] at code ⊢
      rw [scanned_name enclosed, induction after
        fun member => code (List.mem_append_right _ member)]

/-! ## Names with a backtick taken along -/

theorem isSome_of_name_mark {previous : Option Char} {text : Text}
    (marked : (pieceMarks previous text).1 = .name) : (backtickedLength? text).isSome = true := by
  unfold pieceMarks at marked
  split at marked
  · cases marked
  · split at marked
    · cases marked
    · split at marked
      · assumption
      · cases marked

theorem exists_of_backtickedLength? {character : Char} {text : Text}
    (quoted : (backtickedLength? (character :: text)).isSome = true) :
    character = backtick ∧ ∃ name rest, text = name ++ backtick :: rest ∧ backtick ∉ name := by
  rw [backtickedLength?] at quoted
  split at quoted
  · rename_i same
    refine ⟨same, text.takeWhile (· != backtick), (text.dropWhile (· != backtick)).tail, ?_, ?_⟩
    · have shorter : (text.takeWhile (· != backtick)).length < text.length := by
        by_contra long
        simp [long] at quoted
      have whole := List.takeWhile_append_dropWhile (p := (· != backtick)) (l := text)
      cases behind : text.dropWhile (· != backtick) with
      | nil =>
          rw [behind, List.append_nil] at whole
          rw [whole] at shorter
          exact absurd shorter (Nat.lt_irrefl _)
      | cons first rest =>
          have stopped := List.head?_dropWhile_not (· != backtick) text
          rw [behind] at stopped whole
          have closing : first = backtick := by simpa using stopped
          rw [closing] at whole
          exact whole.symm
    · intro member
      have passed := List.mem_takeWhile_imp member
      simp at passed
  · cases quoted

theorem head_scanned {character : Char} (noName : character ≠ backtick) (rest : Text) :
    (scanned (character :: rest)).head? ≠ some .name := by
  cases quoted : isQuote character with
  | false => simp [scanned_plain quoted]
  | true => simp [scanned, scannedFrom, Mode.step_open quoted, Mode.between, noName]

/-- Inside of a name that is closed to the removal of comments, it never meets the scan again. -/
theorem readFrom_ne_scannedFrom {text : Text}
    (outside : (Mode.quoted backtick false).run text = .plain) (previous closed : Option Char) :
    readFrom previous 0 .code text ≠ scannedFrom closed (.quoted backtick false) text := by
  intro same
  match text with
  | [] => cases outside
  | character :: text =>
      have marked : (pieceMarks previous (character :: text)).1 = .name :=
        (List.cons_eq_cons.mp same).1
      rcases exists_of_backtickedLength? (isSome_of_name_mark marked) with
        ⟨rfl, name, rest, shape, inside⟩
      have shorter : rest.length < text.length := by simp [shape]; omega
      have closes : (Mode.quoted backtick false).step backtick = .plain := by decide
      rcases readFrom_name inside rest previous with ⟨last, read⟩
      rw [List.cons_append] at read
      rw [shape, read, scannedFrom, closes, Mode.closed, scannedFrom_behind (.inl rfl),
        List.replicate_succ, List.cons_append] at same
      have later := (List.cons_eq_cons.mp same).2
      cases name with
      | nil =>
          rw [shape, Mode.run_cons, closes, List.nil_append, Mode.run_cons] at outside
          exact readFrom_ne_scannedFrom outside last none (List.cons_eq_cons.mp later).2
      | cons first name =>
          have noName : first ≠ backtick := by
            rintro rfl
            exact inside List.mem_cons_self
          apply head_scanned noName (name ++ backtick :: rest)
          rw [← List.cons_append, ← later]
          rfl
termination_by text.length

theorem Enclosed.behind {quote : Char} (opens : isQuote quote = true) {front content : Text}
    (enclosed : Enclosed quote (front ++ quote :: content)) (first : quote ∉ front) :
    Enclosed quote content := by
  generalize shape : front ++ quote :: content = whole at enclosed
  induction enclosed generalizing front with
  | nil => simp at shape
  | plain different noEscape _ induction =>
      cases front with
      | nil => exact absurd (List.cons_eq_cons.mp shape).1.symm different
      | cons character front =>
          rw [List.mem_cons, not_or] at first
          exact induction first.2 (List.cons_eq_cons.mp shape).2
  | escaped later induction =>
      match front with
      | [] => exact absurd (List.cons_eq_cons.mp shape).1 (ne_backslash_of_isQuote opens)
      | [_] =>
          rw [(List.cons_eq_cons.mp (List.cons_eq_cons.mp shape).2).2]
          exact later
      | _ :: _ :: front =>
          rw [List.mem_cons, List.mem_cons, not_or, not_or] at first
          exact induction first.2.2 (List.cons_eq_cons.mp (List.cons_eq_cons.mp shape).2).2

theorem Enclosed.run {quote : Char} {content : Text} (enclosed : Enclosed quote content)
    (opens : isQuote quote = true) (rest : Text) :
    (Mode.quoted quote false).run (content ++ quote :: rest) = Mode.plain.run rest := by
  have stays := congrArg Scan.mode (enclosed.scan 0).2.1
  rw [mode_run] at stays
  rw [Mode.run_append, stays, Mode.run_cons, Mode.step_close (ne_backslash_of_isQuote opens)]

/-- Legible text ends outside of quotes. -/
theorem Legible.run {text : Text} (legible : Legible text) : Mode.plain.run text = .plain := by
  induction legible with
  | nil => rfl
  | plain unquoted _ induction => rw [Mode.run_cons, Mode.step_unquoted unquoted, induction]
  | @literal quote content rest opens complete _ _ induction =>
      have returns := congrArg Scan.mode ((complete.closed (isQuote_of_opens opens)).returns 0)
      rw [mode_run] at returns
      rw [quoted_append, Mode.run_append, returns, induction]
  | name enclosed _ induction =>
      rw [List.cons_append, Mode.run_cons, Mode.step_open (by decide), enclosed.run (by decide),
        induction]

/-- The removal of comments finds the names of the scan only if no backtick is taken along in
one of them. -/
theorem Legible.wholeNames {text : Text} (legible : Legible text) {previous : Option Char}
    (same : readFrom previous 0 .code text = scanned text) : WholeNames text := by
  induction legible generalizing previous with
  | nil => trivial
  | @plain character rest unquoted _ induction =>
      rw [scanned_plain unquoted] at same
      rw [readFrom_plain unquoted (by rw [same]; rintro ⟨⟩)] at same
      exact (throughout_plain ofNames_wholeAt unquoted _).mpr
        (induction (List.cons_eq_cons.mp same).2)
  | literal opens complete single _ induction =>
      rcases readFrom_literal opens complete single previous with ⟨last, read⟩
      rw [read, scanned_literal opens complete single] at same
      exact (throughout_literal ofNames_wholeAt opens complete _).mpr
        (induction (List.append_cancel_left same))
  | @name name rest enclosed later induction =>
      by_cases inside : backtick ∈ name
      · rcases List.eq_append_cons_of_mem inside with ⟨front, content, rfl, first⟩
        have enclosedLater := enclosed.behind (by decide) first
        have outside := (enclosedLater.run (by decide) rest).trans later.run
        rcases readFrom_name first (content ++ backtick :: rest) previous with ⟨last, read⟩
        have count : (front ++ backtick :: content).length + 2 =
            (front.length + 2) + (content.length + 1) := by
          simp
          omega
        have shape : backtick :: (front ++ backtick :: content) ++ backtick :: rest =
            backtick :: front ++ backtick :: (content ++ backtick :: rest) := by
          simp
        rw [scanned_name enclosed, count, List.replicate_add, List.append_assoc, shape, read]
          at same
        refine absurd ?_ (readFrom_ne_scannedFrom outside last none)
        rw [enclosedLater.complete.scannedFrom (by decide), scannedFrom_behind (.inl rfl)]
        exact List.append_cancel_left same
      · rcases readFrom_name inside rest previous with ⟨last, read⟩
        rw [read, scanned_name enclosed] at same
        exact (wholeNames_name enclosed rest).mpr
          ⟨inside, induction (List.append_cancel_left same)⟩

end Sql

end SchemaSeed
