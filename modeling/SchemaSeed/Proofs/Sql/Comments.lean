import SchemaSeed.Proofs.Sql.Literals
import SchemaSeed.Proofs.Sql.Matching
import SchemaSeed.Sql.Comment

/-! Texts that the removal of comments leaves as they are.  Outside of quotes a part is
kept character by character as long as no annotation and no comment starts in it. -/

namespace SchemaSeed

namespace Sql

/-- What was kept before does not matter once a piece is finished. -/
theorem stripFrom_finished (previous : Option Char) (kept : Bool) (text : Text) :
    stripFrom previous 0 kept text = stripFrom previous 0 true text := by
  cases text <;> rfl

theorem isMargin_eq_false {character : Char} (solid : Character.isBlank character = false) :
    isMargin character = false := by
  cases margin : isMargin character with
  | false => rfl
  | true =>
      simp only [isMargin, Bool.or_eq_true, beq_iff_eq] at margin
      rcases margin with rfl | rfl <;> simp [Character.isBlank] at solid

theorem lineLength?_cons_eq_none {character : Char} (noMargin : isMargin character = false)
    (noHash : character ≠ '#') (noDash : character ≠ '-') (rest : Text) :
    lineLength? (character :: rest) = none := by
  simp only [lineLength?, List.dropWhile_cons, noMargin, Bool.false_eq_true, if_false]
  rw [if_neg]
  simp only [opensLine]
  split <;> simp_all

/-- No line comment starts among characters that cannot open one, unless what follows
does. -/
theorem silent_lineLength {part rest : Text}
    (quiet : ∀ character ∈ part, character ≠ '#' ∧ character ≠ '-')
    (ended : ∀ character, rest.head? = some character →
      isMargin character = false ∧ character ≠ '#' ∧ character ≠ '-') :
    Silent lineLength? part rest := by
  induction part with
  | nil => trivial
  | cons character part induction =>
      have silent := induction fun later member => quiet later (List.mem_cons_of_mem _ member)
      refine ⟨?_, silent⟩
      cases margin : isMargin character with
      | false =>
          have first := quiet character List.mem_cons_self
          exact lineLength?_cons_eq_none margin first.1 first.2 _
      | true =>
          have unopened : lineLength? (part ++ rest) = none := by
            cases part with
            | cons next part => exact silent.1
            | nil =>
                cases rest with
                | nil => rfl
                | cons next rest =>
                    rcases ended next rfl with ⟨noMargin, noHash, noDash⟩
                    exact lineLength?_cons_eq_none noMargin noHash noDash rest
          simpa [lineLength?, margin] using unopened

theorem pieceAt_eq_single (previous : Option Char) {character : Char} {rest : Text}
    (unquoted : isQuote character = false) (noSlash : character ≠ '/')
    (unannotated : word? "comment" (character :: rest) = none)
    (noLine : lineLength? (character :: rest) = none) :
    pieceAt previous (character :: rest) = ⟨1, true⟩ := by
  simp only [isQuote, Bool.or_eq_false_iff, beq_eq_false_iff_ne] at unquoted
  rcases unquoted with ⟨⟨noSingle, noDouble⟩, noBacktick⟩
  have noBlock : blockLength? (character :: rest) = none := by
    simp only [blockLength?]
    split <;> simp_all
  have noNote : annotationLength? previous (character :: rest) = none := by
    simp only [annotationLength?, unannotated, Option.bind_none, ite_self]
  simp [pieceAt, noNote, literalLength?, noSingle, noDouble, backtickedLength?, noBacktick,
    noBlock, noLine]

/-- Text outside of quotes in which nothing starts that would be removed is kept. -/
theorem stripFrom_plain {part rest : Text}
    (plain : ∀ character ∈ part, isQuote character = false ∧ character ≠ '/')
    (unannotated : Silent (word? "comment") part rest)
    (noLine : Silent lineLength? part rest) (previous : Option Char) (kept : Bool) :
    stripFrom previous 0 kept (part ++ rest) =
      part ++ stripFrom (part.getLast?.or previous) 0 true rest := by
  induction part generalizing previous kept with
  | nil => exact stripFrom_finished previous kept rest
  | cons character part induction =>
      have first := plain character List.mem_cons_self
      have single : pieceAt previous (character :: (part ++ rest)) = ⟨1, true⟩ :=
        pieceAt_eq_single previous first.1 first.2 unannotated.1 noLine.1
      have stripped := induction
        (fun later member => plain later (List.mem_cons_of_mem _ member)) unannotated.2
        noLine.2 (some character) true
      simp only [List.cons_append, stripFrom, single, if_true, Nat.sub_self, stripped]
      congr 2
      cases part <;> simp [List.getLast?_cons]

/-! ## Quoted text -/

/-- The rest of a piece is kept or left out as a whole. -/
theorem stripFrom_length (kept : Bool) (previous : Option Char) (part rest : Text) :
    stripFrom previous part.length kept (part ++ rest) =
      (if kept then part else []) ++ stripFrom (part.getLast?.or previous) 0 true rest := by
  induction part generalizing previous with
  | nil =>
      rw [ite_self]
      exact stripFrom_finished previous kept rest
  | cons character part induction =>
      have step : stripFrom previous (character :: part).length kept (character :: part ++ rest) =
          if kept then character :: stripFrom (some character) part.length kept (part ++ rest)
          else stripFrom (some character) part.length kept (part ++ rest) := rfl
      have last : (character :: part).getLast?.or previous =
          part.getLast?.or (some character) := by
        cases part <;> simp [List.getLast?_cons]
      rw [step, induction, last]
      cases kept <;> rfl

/-- The removal of one piece. -/
theorem stripFrom_pieceAt {previous : Option Char} {part rest : Text} {kept : Bool}
    (nonempty : part ≠ []) (piece : pieceAt previous (part ++ rest) = ⟨part.length, kept⟩) :
    stripFrom previous 0 true (part ++ rest) =
      (if kept then part else []) ++ stripFrom (part.getLast?.or previous) 0 true rest := by
  have whole := stripFrom_length kept previous part rest
  cases part with
  | nil => exact absurd rfl nonempty
  | cons character part =>
      rw [← whole]
      simp only [List.cons_append] at piece ⊢
      simp only [stripFrom, piece, List.length_cons]

theorem annotationLength?_of_head (previous : Option Char) {character : Char}
    (foreign : Character.spells 'c' character = false) (rest : Text) :
    annotationLength? previous (character :: rest) = none := by
  have noWord : word? "comment" (character :: rest) = none :=
    startsWith_word 'c' ['o', 'm', 'm', 'e', 'n', 't'] character rest foreign
  simp only [annotationLength?, noWord, Option.bind_none, ite_self]

theorem annotationLength?_of_quote (previous : Option Char) {quote : Char}
    (opens : isQuote quote = true) (text : Text) :
    annotationLength? previous (quote :: text) = none := by
  apply annotationLength?_of_head
  simp only [isQuote, Bool.or_eq_true, beq_iff_eq] at opens
  rcases opens with (rfl | rfl) | rfl <;> decide

/-! ## Whole texts -/

/-- A part that is kept as it is when `rest` follows it, whatever stands before. -/
def Kept (part rest : Text) : Prop :=
  ∀ previous kept, ∃ last,
    stripFrom previous 0 kept (part ++ rest) = part ++ stripFrom last 0 true rest

theorem stripComments_of_kept {text : Text} (kept : Kept text []) : stripComments text = text := by
  rcases kept none true with ⟨last, stripped⟩
  simpa [stripComments, stripFrom] using stripped

theorem Kept.append {first second rest : Text} (keptFirst : Kept first (second ++ rest))
    (keptSecond : Kept second rest) : Kept (first ++ second) rest := by
  intro previous kept
  rcases keptFirst previous kept with ⟨between, strippedFirst⟩
  rcases keptSecond between true with ⟨last, strippedSecond⟩
  exact ⟨last, by rw [List.append_assoc, strippedFirst, strippedSecond, List.append_assoc]⟩

theorem kept_of_piece {part rest : Text} (nonempty : part ≠ [])
    (piece : ∀ previous, pieceAt previous (part ++ rest) = ⟨part.length, true⟩) :
    Kept part rest := by
  intro previous kept
  have stripped := stripFrom_pieceAt nonempty (piece previous)
  exact ⟨part.getLast?.or previous, (stripFrom_finished previous kept _).trans stripped⟩

/-- String literals are kept. -/
theorem kept_literal {content rest : Text}
    (inside : ∀ character ∈ content, character ≠ '\'' ∧ character ≠ '\\')
    (single : rest.head? ≠ some '\'') : Kept ('\'' :: content ++ ['\'']) rest := by
  apply kept_of_piece (by simp)
  intro previous
  have literal := literalLength?_append (.inl rfl) inside single
  have noNote := annotationLength?_of_quote previous (show isQuote '\'' = true from rfl)
    (content ++ '\'' :: rest)
  rw [← List.cons_append] at noNote
  rw [List.append_assoc, List.singleton_append]
  simp only [pieceAt, noNote, literal, Option.some_or]
  simp

theorem backtickedLength?_append {name : Text}
    (inside : ∀ character ∈ name, character ≠ backtick) (rest : Text) :
    backtickedLength? (backtick :: (name ++ backtick :: rest)) = some (name.length + 2) := by
  have content : (name ++ backtick :: rest).takeWhile (· != backtick) = name := by
    rw [List.takeWhile_append_of_pos (by simpa using inside)]
    simp
  simp [backtickedLength?, content]

theorem pieceAt_name {name : Text} (inside : ∀ character ∈ name, character ≠ backtick)
    (rest : Text) (previous : Option Char) :
    pieceAt previous (backtick :: name ++ [backtick] ++ rest) =
      ⟨(backtick :: name ++ [backtick]).length, true⟩ := by
  have quoted := backtickedLength?_append inside rest
  have noNote := annotationLength?_of_quote previous (show isQuote backtick = true from rfl)
    (name ++ backtick :: rest)
  have noLiteral : literalLength? (backtick :: (name ++ backtick :: rest)) = none := by
    simp [literalLength?, backtick]
  rw [List.append_assoc, List.singleton_append, List.cons_append]
  simp only [pieceAt, noNote, noLiteral, quoted, Option.none_or]
  simp

/-- Names between backticks are kept. -/
theorem kept_name {name : Text} (inside : ∀ character ∈ name, character ≠ backtick)
    (rest : Text) : Kept (backtick :: name ++ [backtick]) rest :=
  kept_of_piece (by simp) (pieceAt_name inside rest)

/-- Plain text is kept up to a character that neither goes on with an annotation nor opens
a comment. -/
theorem kept_plain {part rest : Text}
    (plain : ∀ character ∈ part, isQuote character = false ∧ character ≠ '/' ∧
      character ≠ '#' ∧ character ≠ '-')
    (unannotated : occurs (word? "comment") part = false)
    (ended : ∀ character, rest.head? = some character → Bars (word? "comment") character ∧
      isMargin character = false ∧ character ≠ '#' ∧ character ≠ '-') : Kept part rest := by
  intro previous kept
  have silent : Silent (word? "comment") part rest := by
    cases rest with
    | nil => exact silent_nil_iff.mpr unannotated
    | cons character rest =>
        exact (silent_before_bar (ended character rfl).1 rest).mpr (silent_nil_iff.mpr unannotated)
  refine ⟨part.getLast?.or previous, stripFrom_plain ?_ silent ?_ previous kept⟩
  · intro character member
    exact ⟨(plain character member).1, (plain character member).2.1⟩
  · apply silent_lineLength
    · intro character member
      exact (plain character member).2.2
    · intro character first
      exact (ended character first).2

theorem length_stripFrom_le (previous : Option Char) (remaining : Nat) (kept : Bool)
    (text : Text) : (stripFrom previous remaining kept text).length ≤ text.length := by
  induction text generalizing previous remaining kept with
  | nil => exact Nat.le_refl _
  | cons character text induction =>
      cases remaining with
      | zero =>
          simp only [stripFrom]
          split
          · exact Nat.succ_le_succ (induction _ _ _)
          · exact Nat.le_succ_of_le (induction _ _ _)
      | succ remaining =>
          simp only [stripFrom]
          split
          · exact Nat.succ_le_succ (induction _ _ _)
          · exact Nat.le_succ_of_le (induction _ _ _)

end Sql

end SchemaSeed
