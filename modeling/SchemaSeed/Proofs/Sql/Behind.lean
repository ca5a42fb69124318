import SchemaSeed.Proofs.Sql.Literals

/-! Literals by the text behind them.  The search for a closing quote answers with a number;
what the theory of masks needs is the text that is left over, which has one equation for each
way in which the content of a literal goes on. -/

namespace SchemaSeed

namespace Sql

/-- The text behind the quote that closes a literal, from behind its opening quote. -/
def behindQuote? (quote : Char) (text : Text) : Option Text :=
  (closing? quote text).map text.drop

section BehindQuote

variable {quote : Char}

theorem behindQuote?_backslash : behindQuote? quote ['\\'] = none :=
  rfl

theorem behindQuote?_escaped (character : Char) (rest : Text) :
    behindQuote? quote ('\\' :: character :: rest) = behindQuote? quote rest := by
  rw [behindQuote?, closing?_escaped, Option.map_map]
  rfl

theorem behindQuote?_ordinary {character : Char} (different : character ≠ quote)
    (noEscape : character ≠ '\\') (rest : Text) :
    behindQuote? quote (character :: rest) = behindQuote? quote rest := by
  rw [behindQuote?, closing?_ordinary different noEscape, Option.map_map]
  rfl

theorem behindQuote?_append {part : Text}
    (ordinary : ∀ character ∈ part, character ≠ quote ∧ character ≠ '\\') (rest : Text) :
    behindQuote? quote (part ++ rest) = behindQuote? quote rest := by
  induction part with
  | nil => rfl
  | cons character part induction =>
      rw [List.forall_mem_cons] at ordinary
      rw [List.cons_append, behindQuote?_ordinary ordinary.1.1 ordinary.1.2,
        induction ordinary.2]

variable (noEscape : quote ≠ '\\')

include noEscape

theorem behindQuote?_single {rest : Text} (single : rest.head? ≠ some quote) :
    behindQuote? quote (quote :: rest) = some rest := by
  rw [behindQuote?, closing?_single noEscape single]
  rfl

/-- A doubled quote goes on with the content, unless that would leave it open. -/
theorem behindQuote?_doubled (rest : Text) :
    behindQuote? quote (quote :: quote :: rest) =
      (behindQuote? quote rest).or (some (quote :: rest)) := by
  rw [behindQuote?, behindQuote?, closing?_doubled noEscape]
  cases closing? quote rest <;> rfl

end BehindQuote

theorem length_behindQuote? {quote : Char} {text rest : Text}
    (closed : behindQuote? quote text = some rest) : rest.length ≤ text.length := by
  rcases Option.map_eq_some_iff.mp closed with ⟨length, -, rfl⟩
  simp

/-- The text behind the literal with which a text starts. -/
def behindLiteral? : Text → Option Text
  | [] => none
  | character :: rest =>
      if character = '\'' ∨ character = '"' then behindQuote? character rest else none

theorem behindLiteral?_eq (text : Text) :
    behindLiteral? text = (literalLength? text).map text.drop := by
  cases text with
  | nil => rfl
  | cons character rest =>
      simp only [behindLiteral?, literalLength?, behindQuote?]
      split
      · rw [Option.map_map]
        rfl
      · rfl

theorem length_behindLiteral? {text rest : Text} (literal : behindLiteral? text = some rest) :
    rest.length < text.length := by
  cases text with
  | nil => cases literal
  | cons character more =>
      simp only [behindLiteral?] at literal
      split at literal
      · exact Nat.lt_succ_of_le (length_behindQuote? literal)
      · cases literal

/-! ## Masks -/

theorem maskFrom_drop (skipped : Nat) (text : Text) :
    maskFrom skipped text = mask (text.drop skipped) := by
  induction text generalizing skipped with
  | nil => cases skipped <;> rfl
  | cons character text induction =>
      cases skipped with
      | zero => rfl
      | succ remaining => exact induction remaining

theorem mask_literal {text rest : Text} (literal : behindLiteral? text = some rest) :
    mask text = '\'' :: '\'' :: mask rest := by
  cases text with
  | nil => cases literal
  | cons character text =>
      rw [behindLiteral?_eq] at literal
      rcases Option.map_eq_some_iff.mp literal with ⟨length, found, rfl⟩
      have positive : 0 < length := by
        rw [literalLength?] at found
        split at found
        · rcases Option.map_eq_some_iff.mp found with ⟨content, -, rfl⟩
          exact Nat.succ_pos content
        · cases found
      rcases Nat.exists_eq_add_of_le' positive with ⟨count, rfl⟩
      rw [mask, maskFrom_quoted found, maskFrom_drop, List.drop_succ_cons]
      rfl

theorem mask_other {character : Char} {text : Text}
    (none : behindLiteral? (character :: text) = none) :
    mask (character :: text) = character :: mask text := by
  rw [behindLiteral?_eq, Option.map_eq_none_iff] at none
  exact maskFrom_unquoted none

theorem behindLiteral?_of_ordinary {character : Char}
    (ordinary : character ≠ '\'' ∧ character ≠ '"') (rest : Text) :
    behindLiteral? (character :: rest) = none := by
  simp [behindLiteral?, ordinary]

theorem mask_append {part : Text}
    (plain : ∀ character ∈ part, character ≠ '\'' ∧ character ≠ '"') (rest : Text) :
    mask (part ++ rest) = part ++ mask rest :=
  maskFrom_plain plain rest

/-- What a mask holds in front of its first quote stands in the text itself. -/
theorem append_of_mask_eq {text part rest : Text} (masked : mask text = part ++ rest)
    (plain : ∀ character ∈ part, character ≠ '\'' ∧ character ≠ '"') :
    ∃ behind, text = part ++ behind ∧ mask behind = rest := by
  induction part generalizing text with
  | nil => exact ⟨text, rfl, masked⟩
  | cons character part induction =>
      rw [List.forall_mem_cons] at plain
      cases text with
      | nil => cases masked
      | cons first text =>
          cases literal : behindLiteral? (first :: text) with
          | some more =>
              rw [mask_literal literal] at masked
              exact absurd (List.cons_eq_cons.mp masked).1.symm plain.1.1
          | none =>
              rw [mask_other literal] at masked
              rcases List.cons_eq_cons.mp masked with ⟨rfl, later⟩
              rcases induction later plain.2 with ⟨behind, rfl, same⟩
              exact ⟨behind, rfl, same⟩

end Sql

end SchemaSeed
