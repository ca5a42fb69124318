import SchemaSeed.Proofs.Sql.Marks

/-! Text that a scan leaves outside of quotes.  It is made of plain characters, of literals
and of names between backticks, which may hold anything that does not close them. -/

namespace SchemaSeed

namespace Sql

inductive Legible : Text → Prop
  | nil : Legible []
  | plain {character : Char} {rest : Text} (unquoted : isQuote character = false)
      (later : Legible rest) : Legible (character :: rest)
  | literal {quote : Char} {content rest : Text} (opens : quote = '\'' ∨ quote = '"')
      (complete : Complete quote content) (single : rest.head? ≠ some quote)
      (later : Legible rest) : Legible (quote :: content ++ quote :: rest)
  | name {name rest : Text} (enclosed : Enclosed backtick name) (later : Legible rest) :
      Legible (backtick :: name ++ backtick :: rest)

/-! ## What the scan reads -/

namespace Mode

theorem step_open {quote : Char} (opens : isQuote quote = true) :
    plain.step quote = .quoted quote false := by
  simp [step, opens]

theorem step_unquoted {character : Char} (unquoted : isQuote character = false) :
    plain.step character = .plain := by
  simp [step, unquoted]

theorem step_inside {quote character : Char} (different : character ≠ quote)
    (noEscape : character ≠ '\\') :
    (quoted quote false).step character = .quoted quote false := by
  simp [step, different, noEscape]

theorem step_close {quote : Char} (noEscape : quote ≠ '\\') :
    (quoted quote false).step quote = .plain := by
  simp [step, noEscape]

theorem step_backslash (quote : Char) :
    (quoted quote false).step '\\' = .quoted quote true := rfl

theorem step_escaped (quote character : Char) :
    (quoted quote true).step character = .quoted quote false := rfl

end Mode

theorem ne_backslash_of_isQuote {quote : Char} (opens : isQuote quote = true) : quote ≠ '\\' := by
  rintro rfl
  cases opens

theorem Enclosed.complete {quote : Char} {content : Text} (enclosed : Enclosed quote content) :
    Complete quote content := by
  induction enclosed with
  | nil => exact .nil
  | plain different noEscape _ induction => exact .plain different noEscape induction
  | escaped _ induction => exact .escaped induction

/-- Behind the quote that opens it, a scan that ends outside of quotes finds the content of
quoted text and the quote that closes it. -/
theorem exists_enclosed {quote : Char} {text : Text}
    (outside : (Mode.quoted quote false).run text = .plain) :
    ∃ content rest, text = content ++ quote :: rest ∧ Enclosed quote content ∧
      Mode.plain.run rest = .plain := by
  match text with
  | [] => cases outside
  | character :: text =>
      by_cases escape : character = '\\'
      · subst escape
        match text with
        | [] => cases outside
        | next :: text =>
            have behind : (Mode.quoted quote false).run text = .plain := outside
            rcases exists_enclosed behind with ⟨content, rest, rfl, enclosed, later⟩
            exact ⟨'\\' :: next :: content, rest, rfl, .escaped enclosed, later⟩
      · by_cases same : character = quote
        · subst same
          rw [Mode.run_cons, Mode.step_close escape] at outside
          exact ⟨[], text, rfl, .nil, outside⟩
        · rw [Mode.run_cons, Mode.step_inside same escape] at outside
          rcases exists_enclosed outside with ⟨content, rest, rfl, enclosed, later⟩
          exact ⟨character :: content, rest, rfl, .plain same escape enclosed, later⟩

/-- Quoted text that opens right behind itself is the same literal. -/
theorem exists_complete {quote : Char} (opens : isQuote quote = true) {text : Text}
    (outside : (Mode.quoted quote false).run text = .plain) :
    ∃ content rest, text = content ++ quote :: rest ∧ Complete quote content ∧
      rest.head? ≠ some quote ∧ Mode.plain.run rest = .plain := by
  rcases exists_enclosed outside with ⟨content, rest, shape, enclosed, later⟩
  by_cases doubled : rest.head? = some quote
  · rcases List.head?_eq_some_iff.mp doubled with ⟨more, rfl⟩
    have shorter : more.length < text.length := by simp [shape]; omega
    rw [Mode.run_cons, Mode.step_open opens] at later
    rcases exists_complete opens later with ⟨second, behind, rfl, complete, single, last⟩
    refine ⟨content ++ quote :: quote :: second, behind, by simp [shape], ?_, single, last⟩
    exact enclosed.complete.append (.doubled complete)
  · exact ⟨content, rest, shape, enclosed.complete, doubled, later⟩
termination_by text.length

theorem legible_of_run {text : Text} (outside : Mode.plain.run text = .plain) : Legible text := by
  match text with
  | [] => exact .nil
  | character :: text =>
      cases quoted : isQuote character with
      | false =>
          rw [Mode.run_cons, Mode.step_unquoted quoted] at outside
          exact .plain quoted (legible_of_run outside)
      | true =>
          rw [Mode.run_cons, Mode.step_open quoted] at outside
          by_cases name : character = backtick
          · subst name
            rcases exists_enclosed outside with ⟨content, rest, shape, enclosed, later⟩
            have shorter : rest.length < text.length := by simp [shape]; omega
            have legible := legible_of_run later
            rw [shape]
            exact .name enclosed legible
          · have opens : character = '\'' ∨ character = '"' := by
              simpa [isQuote, name] using quoted
            rcases exists_complete quoted outside with
              ⟨content, rest, shape, complete, single, later⟩
            have shorter : rest.length < text.length := by simp [shape]; omega
            have legible := legible_of_run later
            rw [shape]
            exact .literal opens complete single legible
termination_by text.length

/-- A list that can be split is legible. -/
theorem legible_of_splitTop {separator text : Text} {parts : List Text}
    (split : splitTop separator text = .ok parts) : Legible text := by
  have closed := (splitTop_eq_ok split).1
  rw [mode_run] at closed
  apply legible_of_run
  cases ended : Mode.plain.run text with
  | plain => rfl
  | quoted =>
      rw [show Scan.start.mode = Mode.plain from rfl, ended] at closed
      cases closed

/-! ## Marks of quoted text -/

/-- A quote that does not open quoted text again right behind its end has no say in what
follows. -/
theorem scannedFrom_behind {quote : Char} {text : Text}
    (apart : quote = backtick ∨ text.head? ≠ some quote) :
    scannedFrom (some quote) .plain text = scanned text := by
  cases text with
  | nil => rfl
  | cons character text =>
      have mark : Mode.plain.between (some quote) (Mode.plain.step character) =
          Mode.plain.between none (Mode.plain.step character) := by
        cases quoted : isQuote character with
        | false => rw [Mode.step_unquoted quoted]; rfl
        | true =>
            rw [Mode.step_open quoted]
            simp only [Mode.between, ne_eq, reduceCtorEq, not_false_eq_true, and_true,
              Option.some.injEq]
            by_cases name : character = backtick
            · simp [name]
            · have different : quote ≠ character := by
                rintro rfl
                rcases apart with same | single
                · exact name same
                · exact single rfl
              simp [name, different]
      simp only [scanned, scannedFrom, mark]

/-- All that stands between two quotes has one mark, and so has the quote that closes it. -/
theorem Complete.scannedFrom {quote : Char} {content : Text} (complete : Complete quote content)
    (opens : isQuote quote = true) (closed : Option Char) (rest : Text) :
    Sql.scannedFrom closed (.quoted quote false) (content ++ quote :: rest) =
      List.replicate (content.length + 1) (Mode.mark quote) ++
        Sql.scannedFrom (some quote) .plain rest := by
  have noEscape := ne_backslash_of_isQuote opens
  induction complete generalizing closed with
  | nil => simp [Sql.scannedFrom, Mode.step_close noEscape, Mode.between, Mode.closed]
  | plain different noBackslash _ induction =>
      rw [List.cons_append, Sql.scannedFrom, Mode.step_inside different noBackslash, induction]
      rfl
  | escaped _ induction =>
      rw [List.cons_append, List.cons_append, Sql.scannedFrom, Sql.scannedFrom]
      simp only [Mode.step_backslash, Mode.step_escaped, induction]
      rfl
  | doubled _ induction =>
      have mark : Mode.plain.between (some quote) (.quoted quote false) = Mode.mark quote := by
        simp [Mode.between]
      rw [List.cons_append, List.cons_append, Sql.scannedFrom, Sql.scannedFrom]
      simp only [Mode.step_close noEscape, Mode.step_open opens, induction, Mode.closed, mark]
      rfl

theorem scanned_plain {character : Char} (unquoted : isQuote character = false) (rest : Text) :
    scanned (character :: rest) = .code :: scanned rest := by
  simp [scanned, scannedFrom, Mode.step_unquoted unquoted, Mode.between, Mode.closed]

theorem ne_backtick_of_opens {quote : Char} (opens : quote = '\'' ∨ quote = '"') :
    quote ≠ backtick := by
  rcases opens with rfl | rfl <;> decide

theorem scanned_literal {quote : Char} {content rest : Text} (opens : quote = '\'' ∨ quote = '"')
    (complete : Complete quote content) (single : rest.head? ≠ some quote) :
    scanned (quote :: content ++ quote :: rest) =
      .opening :: List.replicate (content.length + 1) .literal ++ scanned rest := by
  have quoted := isQuote_of_opens opens
  have noName := ne_backtick_of_opens opens
  rw [List.cons_append, scanned, scannedFrom, Mode.step_open quoted,
    complete.scannedFrom quoted, scannedFrom_behind (.inr single)]
  simp [Mode.between, Mode.mark, noName]

theorem scanned_name {name : Text} (enclosed : Enclosed backtick name) (rest : Text) :
    scanned (backtick :: name ++ backtick :: rest) =
      List.replicate (name.length + 2) .name ++ scanned rest := by
  rw [List.cons_append, scanned, scannedFrom, Mode.step_open (by decide),
    enclosed.complete.scannedFrom (by decide), scannedFrom_behind (.inl rfl)]
  rfl

end Sql

end SchemaSeed
