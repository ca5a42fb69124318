import SchemaSeed.Proofs.Sql.Recased
import SchemaSeed.Proofs.Sql.Stripped

/-! Marks for what each character of a text belongs to.  Three readers set them: the scan that
splits lists and finds groups, the search for literals that masks them, and the removal of
comments.  What the last two write is a function of their marks and the text. -/

namespace SchemaSeed

namespace Sql

/-- What a character belongs to, quotes included.  A literal opens with a mark of its own, so
that two of them in a row stay apart. -/
inductive Mark where
  | code
  | opening
  | literal
  | name
  | comment
deriving Repr, DecidableEq

namespace Mark

def isLiteral : Mark → Bool
  | opening | literal => true
  | code | name | comment => false

/-- A reader that does not know of names takes them for code. -/
def nameless : Mark → Mark
  | name => code
  | mark => mark

/-- What is left of a character whose mark is known once literals are emptied. -/
def emptied : Mark → Char → Text
  | opening, _ => ['\'', '\'']
  | literal, _ => []
  | code, character | name, character | comment, character => [character]

/-- What is left of it once comments are removed. -/
def uncommented : Mark → Char → Text
  | comment, _ => []
  | code, character | opening, character | literal, character | name, character => [character]

end Mark

/-- Whether the character at each position lies in a string literal. -/
def literals (marks : List Mark) : List Bool :=
  marks.map Mark.isLiteral

/-- The text that is written when every character is rewritten by its mark. -/
def rewritten (rewrite : Mark → Char → Text) (marks : List Mark) (text : Text) : Text :=
  (List.zipWith rewrite marks text).flatten

@[simp] theorem rewritten_nil (rewrite : Mark → Char → Text) (marks : List Mark) :
    rewritten rewrite marks [] = [] := by
  simp [rewritten]

@[simp] theorem rewritten_cons (rewrite : Mark → Char → Text) (mark : Mark) (marks : List Mark)
    (character : Char) (text : Text) :
    rewritten rewrite (mark :: marks) (character :: text) =
      rewrite mark character ++ rewritten rewrite marks text := rfl

/-! ## The scan -/

namespace Mode

/-- The mark of what stands between two quotes of that kind. -/
def mark (quote : Char) : Mark :=
  if quote = backtick then .name else .literal

/-- The mark of the character between two modes, where `closed` is the quote that ended quoted
text right before it.  A literal that opens there with the same quote is no other literal: its
quote is doubled. -/
def between (closed : Option Char) : Mode → Mode → Mark
  | .quoted quote _, _ => mark quote
  | .plain, .plain => .code
  | .plain, .quoted quote _ =>
      if quote ≠ backtick ∧ closed ≠ some quote then .opening else mark quote

/-- The quote that ends quoted text between two modes. -/
def closed : Mode → Mode → Option Char
  | .quoted quote _, .plain => some quote
  | _, _ => none

end Mode

def scannedFrom (closed : Option Char) (mode : Mode) : Text → List Mark
  | [] => []
  | character :: rest =>
      let next := mode.step character
      mode.between closed next :: scannedFrom (mode.closed next) next rest

/-- The marks that the scan sets. -/
def scanned (text : Text) : List Mark :=
  scannedFrom none .plain text

/-! ## Masks -/

/-- The marks that masking sets, the first `skipped` characters being part of a literal. -/
def maskedFrom (skipped : Nat) : Text → List Mark
  | [] => []
  | character :: rest =>
      match skipped with
      | remaining + 1 => .literal :: maskedFrom remaining rest
      | 0 =>
          match literalLength? (character :: rest) with
          | some length => .opening :: maskedFrom (length - 1) rest
          | none => .code :: maskedFrom 0 rest

def masked (text : Text) : List Mark :=
  maskedFrom 0 text

theorem maskFrom_eq_rewritten (skipped : Nat) (text : Text) :
    maskFrom skipped text = rewritten Mark.emptied (maskedFrom skipped text) text := by
  induction text generalizing skipped with
  | nil => cases skipped <;> simp [maskFrom]
  | cons character text induction =>
      cases skipped with
      | succ remaining => simp [maskFrom, maskedFrom, Mark.emptied, induction]
      | zero =>
          simp only [maskFrom, maskedFrom]
          cases literalLength? (character :: text) with
          | none => simp [Mark.emptied, induction]
          | some length => simp [Mark.emptied, induction]

/-- A mask is the text with its literals emptied. -/
theorem mask_eq_rewritten (text : Text) :
    mask text = rewritten Mark.emptied (masked text) text :=
  maskFrom_eq_rewritten 0 text

/-! ## Comments -/

/-- The mark of a piece that the removal of comments takes from the start of a text, and the
one of what follows its first character. -/
def pieceMarks (previous : Option Char) (text : Text) : Mark × Mark :=
  if (pieceAt previous text).kept = false then (.comment, .comment)
  else if (literalLength? text).isSome then (.opening, .literal)
  else if (backtickedLength? text).isSome then (.name, .name)
  else (.code, .code)

/-- The marks that the removal of comments sets, the first `remaining` characters being part of
a piece with that mark. -/
def readFrom (previous : Option Char) (remaining : Nat) (mark : Mark) : Text → List Mark
  | [] => []
  | character :: rest =>
      match remaining with
      | remaining + 1 => mark :: readFrom (some character) remaining mark rest
      | 0 =>
          let marks := pieceMarks previous (character :: rest)
          marks.1 :: readFrom (some character)
            ((pieceAt previous (character :: rest)).length - 1) marks.2 rest

def read (text : Text) : List Mark :=
  readFrom none 0 .code text

theorem readFrom_finished (previous : Option Char) (mark : Mark) (text : Text) :
    readFrom previous 0 mark text = readFrom previous 0 .code text := by
  cases text <;> rfl

theorem length_readFrom (previous : Option Char) (remaining : Nat) (mark : Mark) (text : Text) :
    (readFrom previous remaining mark text).length = text.length := by
  induction text generalizing previous remaining mark with
  | nil => rfl
  | cons character text induction => cases remaining <;> simp [readFrom, induction]

theorem pieceMarks_cases (previous : Option Char) (text : Text) :
    ((pieceAt previous text).kept = false ∧ pieceMarks previous text = (.comment, .comment)) ∨
      (pieceAt previous text).kept = true ∧ (pieceMarks previous text).1 ≠ .comment ∧
        (pieceMarks previous text).2 ≠ .comment := by
  unfold pieceMarks
  cases (pieceAt previous text).kept with
  | false => exact .inl ⟨rfl, rfl⟩
  | true =>
      refine .inr ⟨rfl, ?_⟩
      simp only [Bool.true_eq_false, if_false]
      split
      · exact ⟨by decide, by decide⟩
      · split <;> exact ⟨by decide, by decide⟩

theorem Mark.uncommented_of_ne {mark : Mark} (code : mark ≠ .comment) (character : Char) :
    mark.uncommented character = [character] := by
  cases mark with
  | comment => exact absurd rfl code
  | code | opening | literal | name => rfl

theorem stripFrom_eq_rewritten (previous : Option Char) (remaining : Nat) {kept : Bool}
    {mark : Mark} (known : mark = .comment ↔ kept = false) (text : Text) :
    stripFrom previous remaining kept text =
      rewritten Mark.uncommented (readFrom previous remaining mark text) text := by
  induction text generalizing previous remaining kept mark with
  | nil => simp [stripFrom]
  | cons character text induction =>
      cases remaining with
      | succ remaining =>
          simp only [stripFrom, readFrom, rewritten_cons, Nat.add_sub_cancel]
          rw [← induction _ _ known]
          cases kept with
          | false =>
              rw [known.mpr rfl]
              rfl
          | true =>
              rw [Mark.uncommented_of_ne fun comment => Bool.noConfusion (known.mp comment)]
              rfl
      | zero =>
          simp only [stripFrom, readFrom, rewritten_cons]
          have cases := pieceMarks_cases previous (character :: text)
          have known : (pieceMarks previous (character :: text)).2 = .comment ↔
              (pieceAt previous (character :: text)).kept = false := by
            rcases cases with ⟨removed, marks⟩ | ⟨keeps, -, later⟩
            · simp [removed, marks]
            · simp [keeps, later]
          rw [← induction _ _ known]
          rcases cases with ⟨removed, marks⟩ | ⟨keeps, first, -⟩
          · simp [removed, marks, Mark.uncommented]
          · simp [keeps, Mark.uncommented_of_ne first]

/-- A text without its comments is made of the characters that have other marks. -/
theorem stripComments_eq_rewritten (text : Text) :
    stripComments text = rewritten Mark.uncommented (read text) text :=
  stripFrom_eq_rewritten none 0 (by simp) text

theorem length_uncommented_le (marks : List Mark) (text : Text) :
    (rewritten Mark.uncommented marks text).length ≤ text.length := by
  induction text generalizing marks with
  | nil => simp
  | cons character text induction =>
      cases marks with
      | nil => simp [rewritten]
      | cons mark marks =>
          have later := induction marks
          cases mark <;> simp [Mark.uncommented] <;> omega

/-- Text from which nothing is removed has no comments. -/
theorem comment_not_mem_read {text : Text} (uncommented : stripComments text = text) :
    Mark.comment ∉ read text := by
  have length := length_readFrom none 0 .code text
  rw [stripComments_eq_rewritten] at uncommented
  rw [read] at uncommented ⊢
  generalize readFrom none 0 .code text = marks at length uncommented
  induction text generalizing marks with
  | nil => simp_all
  | cons character text induction =>
      cases marks with
      | nil => simp
      | cons mark marks =>
          have shorter := length_uncommented_le marks text
          have same := congrArg List.length uncommented
          have code : mark ≠ .comment := by
            rintro rfl
            simp [Mark.uncommented] at same
            omega
          rw [rewritten_cons, Mark.uncommented_of_ne code] at uncommented
          have later := induction marks (by simpa using length) (List.cons_eq_cons.mp uncommented).2
          simp [later, code.symm]

end Sql

end SchemaSeed
