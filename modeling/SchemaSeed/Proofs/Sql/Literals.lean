import SchemaSeed.Sql.StringLiteral

/-! String literals whose content holds neither their quote nor a backslash.  Such a
literal ends at the next quote, provided that no other one follows, and masking
empties it. -/

namespace SchemaSeed

namespace Sql

/-! ## The search for the closing quote, step by step -/

section Step

variable {quote : Char}

theorem closing?_escaped (character : Char) (rest : Text) :
    closing? quote ('\\' :: character :: rest) = (closing? quote rest).map (· + 2) :=
  rfl

theorem closing?_ordinary {character : Char} (different : character ≠ quote)
    (noEscape : character ≠ '\\') (rest : Text) :
    closing? quote (character :: rest) = (closing? quote rest).map (· + 1) := by
  cases rest with
  | nil => simp [closing?, different]
  | cons next rest =>
      rw [closing?, if_pos different]
      exact noEscape

variable (noEscape : quote ≠ '\\')

include noEscape

theorem closing?_single {rest : Text} (single : rest.head? ≠ some quote) :
    closing? quote (quote :: rest) = some 1 := by
  cases rest with
  | nil =>
      rw [closing?, if_pos rfl]
      exact noEscape
  | cons next rest =>
      have different : next ≠ quote := fun same => single (by rw [same]; rfl)
      rw [closing?, if_neg (not_not_intro rfl), if_pos different]
      exact noEscape

/-- Of two quotes in a row the first closes the literal only if nothing closes it later. -/
theorem closing?_doubled (rest : Text) :
    closing? quote (quote :: quote :: rest) =
      ((closing? quote rest).map (· + 2)).or (some 1) := by
  rw [closing?, if_neg (not_not_intro rfl), if_neg (not_not_intro rfl)]
  · cases closing? quote rest <;> rfl
  · exact noEscape

end Step

theorem closing?_append {quote : Char} {content rest : Text} (noEscape : quote ≠ '\\')
    (inside : ∀ character ∈ content, character ≠ quote ∧ character ≠ '\\')
    (single : rest.head? ≠ some quote) :
    closing? quote (content ++ quote :: rest) = some (content.length + 1) := by
  induction content with
  | nil => exact closing?_single noEscape single
  | cons character content induction =>
      rcases inside character List.mem_cons_self with ⟨different, noBackslash⟩
      have later := induction fun later member => inside later (List.mem_cons_of_mem _ member)
      rw [List.cons_append, closing?_ordinary different noBackslash, later]
      rfl

theorem literalLength?_append {quote : Char} {content rest : Text}
    (opens : quote = '\'' ∨ quote = '"')
    (inside : ∀ character ∈ content, character ≠ quote ∧ character ≠ '\\')
    (single : rest.head? ≠ some quote) :
    literalLength? (quote :: content ++ quote :: rest) = some (content.length + 2) := by
  have noEscape : quote ≠ '\\' := by
    rcases opens with rfl | rfl <;> decide
  rw [List.cons_append, literalLength?, if_pos opens, closing?_append noEscape inside single]
  rfl

theorem quoted_append (quote : Char) (content rest : Text) :
    quote :: content ++ quote :: rest = quote :: content ++ [quote] ++ rest := by
  simp

/-! ## Masks -/

theorem maskFrom_quoted {character : Char} {rest : Text} {length : Nat}
    (literal : literalLength? (character :: rest) = some length) :
    maskFrom 0 (character :: rest) = '\'' :: '\'' :: maskFrom (length - 1) rest := by
  simp only [maskFrom, literal]

theorem maskFrom_unquoted {character : Char} {rest : Text}
    (none : literalLength? (character :: rest) = none) :
    maskFrom 0 (character :: rest) = character :: maskFrom 0 rest := by
  simp only [maskFrom, none]

theorem maskFrom_length (part rest : Text) :
    maskFrom part.length (part ++ rest) = maskFrom 0 rest := by
  induction part with
  | nil => rfl
  | cons character part induction => exact induction

theorem maskFrom_plain {part : Text}
    (plain : ∀ character ∈ part, character ≠ '\'' ∧ character ≠ '"') (rest : Text) :
    maskFrom 0 (part ++ rest) = part ++ maskFrom 0 rest := by
  induction part with
  | nil => rfl
  | cons character part induction =>
      rcases plain character List.mem_cons_self with ⟨noSingle, noDouble⟩
      have noLiteral : literalLength? (character :: (part ++ rest)) = none := by
        simp [literalLength?, noSingle, noDouble]
      rw [List.cons_append, maskFrom_unquoted noLiteral,
        induction fun later member => plain later (List.mem_cons_of_mem _ member)]
      rfl

/-- A text without quotes is its own mask. -/
theorem mask_of_plain {text : Text}
    (plain : ∀ character ∈ text, character ≠ '\'' ∧ character ≠ '"') : mask text = text :=
  calc mask text = maskFrom 0 (text ++ []) := by rw [List.append_nil, mask]
    _ = text ++ [] := maskFrom_plain plain []
    _ = text := List.append_nil text

theorem maskFrom_literal {content rest : Text}
    (inside : ∀ character ∈ content, character ≠ '\'' ∧ character ≠ '\\')
    (single : rest.head? ≠ some '\'') :
    maskFrom 0 ('\'' :: content ++ '\'' :: rest) = '\'' :: '\'' :: maskFrom 0 rest := by
  have literal := literalLength?_append (.inl rfl) inside single
  have skipped := maskFrom_length (content ++ ['\'']) rest
  rw [List.cons_append] at literal ⊢
  rw [maskFrom_quoted literal, ← skipped]
  simp

end Sql

end SchemaSeed
