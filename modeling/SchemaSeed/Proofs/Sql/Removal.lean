import Mathlib.Data.List.Infix
import SchemaSeed.Proofs.Sql.Stripped
import SchemaSeed.Proofs.Text.Squeezed

/-! A comment and a blank in the same place.  Of lexical text in front of them the same is
left.  A block comment leaves nothing behind, while the blank stays, unless a line comment
follows that takes it along. -/

namespace SchemaSeed

namespace Sql

/-! ## Block comments -/

theorem getLast?_of_block {comment : Text} (whole : blockLength? comment = some comment.length) :
    comment.getLast? = some '/' := by
  have ends : ∀ (passed : Nat) (text : Text),
      blockEnd? passed text = some (passed + text.length) → text.getLast? = some '/' := by
    intro passed text found
    induction text generalizing passed with
    | nil => cases found
    | cons character text induction =>
        by_cases here : character = '*' ∧ text.head? = some '/'
        · rcases here with ⟨rfl, slash⟩
          rcases List.head?_eq_some_iff.mp slash with ⟨rest, rfl⟩
          rw [blockEnd?, Option.some_inj, List.length_cons, List.length_cons] at found
          have nothing : rest = [] := List.length_eq_zero_iff.mp (by omega)
          rw [nothing]
          rfl
        · rw [blockEnd?_cons here, List.length_cons, ← Nat.add_assoc, Nat.add_right_comm] at found
          rw [List.getLast?_cons, induction _ found]
          rfl
  rcases blockLength?_eq_some whole with ⟨inside, rfl⟩
  rw [blockLength?, List.length_cons, List.length_cons, Nat.add_comm] at whole
  rw [List.getLast?_cons, List.getLast?_cons, ends 2 inside (by rw [whole]; congr 1; omega)]
  rfl

theorem stripFrom_block {comment : Text} (whole : blockLength? comment = some comment.length)
    (previous : Option Char) (rest : Text) :
    stripFrom previous 0 true (comment ++ rest) = stripFrom (some '/') 0 true rest := by
  have nonempty : comment ≠ [] := by
    rintro rfl
    cases whole
  rw [stripFrom_pieceAt nonempty (pieceAt_block whole previous rest), getLast?_of_block whole]
  rfl

/-! ## Line comments -/

theorem stripFrom_congr {previous other : Option Char}
    (same : isWordCharacter? previous = isWordCharacter? other) (text : Text) :
    stripFrom previous 0 true text = stripFrom other 0 true text := by
  cases text with
  | nil => rfl
  | cons character rest =>
      have piece : pieceAt previous (character :: rest) = pieceAt other (character :: rest) := by
        rw [pieceAt, pieceAt, annotationLength?_eq, annotationLength?_eq, same]
      simp only [stripFrom, piece]

theorem isLineEnd_cases {character : Char} (ends : isLineEnd character = true) :
    character = '\n' ∨ character = '\r' := by
  simpa only [isLineEnd, Bool.or_eq_true, beq_iff_eq] using ends

/-- The end of a line is kept, whatever stands before it. -/
theorem stripFrom_lineEnd {character : Char} (ends : isLineEnd character = true)
    (previous : Option Char) (rest : Text) :
    stripFrom previous 0 true (character :: rest) =
      character :: stripFrom (some character) 0 true rest := by
  have known := isLineEnd_cases ends
  have single : pieceAt previous (character :: rest) = ⟨1, true⟩ := by
    apply pieceAt_eq_single
    · rcases known with rfl | rfl <;> decide
    · rcases known with rfl | rfl <;> decide
    · exact startsWith_word 'c' ['o', 'm', 'm', 'e', 'n', 't'] character rest
        (by rcases known with rfl | rfl <;> decide)
    · apply lineLength?_cons_eq_none <;> rcases known with rfl | rfl <;> decide
  simp only [stripFrom, single, if_true, Nat.sub_self]

/-- What a line comment leaves of the text. -/
def behindLine (text : Text) : Text :=
  stripFrom none 0 true ((text.dropWhile isMargin).dropWhile (!isLineEnd ·))

theorem behindLine_cases (text : Text) :
    behindLine text = [] ∨
      ∃ character rest, behindLine text = character :: rest ∧
        Character.isBlank character = true := by
  rw [behindLine]
  cases shape : (text.dropWhile isMargin).dropWhile (!isLineEnd ·) with
  | nil => exact .inl rfl
  | cons character rest =>
      have ends := List.head?_dropWhile_not (!isLineEnd ·) (text.dropWhile isMargin)
      rw [shape] at ends
      simp only [List.head?_cons, Bool.not_eq_false'] at ends
      refine .inr ⟨character, _, stripFrom_lineEnd ends none rest, ?_⟩
      rcases isLineEnd_cases ends with rfl | rfl <;> decide

/-- A line comment is one piece with the margin before it. -/
theorem pieceAt_line {text : Text} (opens : opensLine (text.dropWhile isMargin) = true)
    (previous : Option Char) :
    pieceAt previous text = ⟨(text.takeWhile isMargin ++
      (text.dropWhile isMargin).takeWhile (!isLineEnd ·)).length, false⟩ := by
  have first : ∃ character rest, text = character :: rest ∧ isQuote character = false ∧
      opensBlock text = false ∧ Character.spells 'c' character = false := by
    cases text with
    | nil => cases opens
    | cons character rest =>
        refine ⟨character, rest, rfl, ?_⟩
        cases margin : isMargin character with
        | true =>
            simp only [isMargin, Bool.or_eq_true, beq_iff_eq] at margin
            rcases margin with rfl | rfl <;> exact ⟨rfl, rfl, by decide⟩
        | false =>
            rw [List.dropWhile_cons_of_neg (by simp [margin])] at opens
            rcases opensLine_cases opens with ⟨more, shape⟩ | ⟨more, shape⟩ <;>
              (cases shape; exact ⟨rfl, rfl, by decide⟩)
  rcases first with ⟨character, rest, rfl, unquoted, noBlock, foreign⟩
  rw [pieceAt_unquoted unquoted (annotationLength?_of_head previous foreign rest),
    blockLength?_eq_none noBlock, lineLength?, if_pos opens, Option.none_or, Option.elim_some,
    List.length_append]

theorem stripFrom_line {text : Text} (opens : opensLine (text.dropWhile isMargin) = true)
    (previous : Option Char) : stripFrom previous 0 true text = behindLine text := by
  have split := @List.takeWhile_append_dropWhile _ isMargin text
  have splitBehind := @List.takeWhile_append_dropWhile _ (!isLineEnd ·) (text.dropWhile isMargin)
  have piece := pieceAt_line opens previous
  have ends := List.head?_dropWhile_not (!isLineEnd ·) (text.dropWhile isMargin)
  have nonempty : text.takeWhile isMargin ++
      (text.dropWhile isMargin).takeWhile (!isLineEnd ·) ≠ [] := by
    intro nothing
    have behind := (List.append_eq_nil_iff.mp nothing).2
    rcases opensLine_cases opens with ⟨more, shape⟩ | ⟨more, shape⟩ <;>
      (rw [shape] at behind; cases behind)
  rw [behindLine]
  rw [← splitBehind, ← List.append_assoc] at split
  generalize text.takeWhile isMargin ++
    (text.dropWhile isMargin).takeWhile (!isLineEnd ·) = removed at split piece nonempty
  generalize (text.dropWhile isMargin).dropWhile (!isLineEnd ·) = rest at split ends ⊢
  subst split
  rw [stripFrom_pieceAt nonempty piece]
  cases rest with
  | nil => rfl
  | cons character rest =>
      have ended : isLineEnd character = true := by simpa using ends
      rw [stripFrom_lineEnd ended, stripFrom_lineEnd ended]
      rfl

/-! ## Lexical text without its margin -/

theorem opensComment_of_append {text more : Text} (closed : opensComment (text ++ more) = false) :
    opensComment text = false := by
  rw [opensComment, Bool.or_eq_false_iff] at closed ⊢
  constructor
  · cases opens : opensBlock text with
    | false => rfl
    | true =>
        unfold opensBlock at opens
        split at opens
        · cases closed.1
        · cases opens
  · cases opens : opensLine text with
    | false => rfl
    | true =>
        rw [opensLine_append opens more] at closed
        cases closed.2

section Margin

variable {commented : Bool} {admits : Text → Prop} {text : Text}

/-- Where a text ends with a character, what stands behind a part ends with it that does not
end with it itself. -/
theorem exists_of_concat {part rest : Text} {character : Char}
    (shape : part ++ rest = text ++ [character]) (different : part.getLast? ≠ some character) :
    ∃ before, rest = before ++ [character] ∧ text = part ++ before := by
  rcases List.eq_nil_or_concat rest with rfl | ⟨before, last, rfl⟩
  · rw [List.append_nil] at shape
    rw [shape, List.getLast?_concat] at different
    exact absurd rfl different
  · rw [List.concat_eq_append, ← List.append_assoc] at shape
    rcases List.append_inj' shape rfl with ⟨same, last⟩
    cases last
    exact ⟨before, List.concat_eq_append, same.symm⟩

/-- A space or a tab at the end of lexical text belongs to nothing that stands before it. -/
theorem Lexical.of_concat {character : Char} (margin : isMargin character = true)
    (lexical : Lexical commented admits (text ++ [character])) : Lexical commented admits text := by
  have plain := isMargin_plain margin
  have unquoted {quote : Char} (quoted : isQuote quote = true) (content : Text) :
      (quote :: content ++ [quote]).getLast? ≠ some character := by
    rw [List.getLast?_concat]
    rintro ⟨⟩
    rw [quoted] at plain
    cases plain.1
  generalize shape : text ++ [character] = whole at lexical
  induction lexical generalizing text with
  | nil => simp at shape
  | @plain first rest unquotedFirst code _ induction =>
      cases text with
      | nil => exact .nil
      | cons other text =>
          rcases List.cons_eq_cons.mp shape with ⟨rfl, rfl⟩
          exact .plain unquotedFirst (fun comments => opensComment_of_append (code comments))
            (induction rfl)
  | @literal quote content rest opens complete single _ induction =>
      rw [quoted_append] at shape
      rcases exists_of_concat shape.symm (unquoted (isQuote_of_opens opens) content) with
        ⟨before, rfl, rfl⟩
      rw [← quoted_append]
      refine .literal opens complete (fun doubled => single ?_) (induction rfl)
      rw [List.head?_append, doubled]
      rfl
  | name inside admitted _ induction =>
      rw [quoted_append] at shape
      rcases exists_of_concat shape.symm (unquoted (by decide) _) with ⟨before, rfl, rfl⟩
      rw [← quoted_append]
      exact .name inside admitted (induction rfl)
  | block comments found _ induction =>
      have different := getLast?_of_block found
      rcases exists_of_concat shape.symm (by rw [different]; rintro ⟨⟩; exact plain.2.1 rfl) with
        ⟨before, rfl, rfl⟩
      exact .block comments found (induction rfl)
  | @line comment rest comments opens inside ended _ induction =>
      rcases ended with ⟨first, head, ends⟩
      rcases List.eq_nil_or_concat rest with rfl | ⟨before, last, rfl⟩
      · cases head
      · rw [List.concat_eq_append, ← List.append_assoc] at shape
        rcases List.append_inj' shape rfl with ⟨rfl, same⟩
        cases same
        refine .line comments opens inside ⟨first, ?_, ends⟩ (induction List.concat_eq_append.symm)
        cases before with
        | nil =>
            cases head
            rcases isLineEnd_cases ends with rfl | rfl <;> cases margin
        | cons other before => exact head

theorem Lexical.rdropWhile_margin (lexical : Lexical commented admits text) :
    Lexical commented admits (text.rdropWhile isMargin) := by
  induction text using List.reverseRecOn with
  | nil => exact lexical
  | append_singleton text character induction =>
      rw [List.rdropWhile_concat]
      split
      · rename_i margin
        exact induction (lexical.of_concat margin)
      · exact lexical

end Margin

/-! ## Annotations -/

theorem bars_note {character : Char}
    (foreign : ∀ letter ∈ ("comment" : Text), Character.spells letter character = false)
    (solid : Character.isBlank character = false) : Bars note? character :=
  (bars_word foreign).bind (bars_blanks solid)

/-- No annotation runs over a character that is not part of one. -/
theorem annotationLength?_of_bar {part : Text} {character : Char} (bars : Bars note? character)
    (unquoted : ∀ other ∈ part, isQuote other = false) (plain : isQuote character = false)
    (previous : Option Char) (rest : Text) :
    annotationLength? previous (part ++ character :: rest) = none := by
  rw [annotationLength?_eq, bars part rest]
  split
  · rfl
  · cases noted : note? part with
    | none => rfl
    | some behind =>
        rcases note?_eq_some noted with ⟨front, rfl, -, -⟩
        have noLiteral : literalLength? (behind ++ character :: rest) = none := by
          cases behind with
          | nil => exact literalLength?_of_head plain rest
          | cons first behind =>
              exact literalLength?_of_head (unquoted first (by simp)) (behind ++ character :: rest)
        rw [Option.map_some, Option.bind_some, noLiteral]
        rfl

theorem annotationLength?_of_line {part right : Text}
    (opens : opensLine (right.dropWhile isMargin) = true)
    (unquoted : ∀ other ∈ part, isQuote other = false) (previous : Option Char) :
    annotationLength? previous (part ++ right) = none := by
  have unquotedMargin : ∀ other ∈ part ++ right.takeWhile isMargin, isQuote other = false :=
    List.forall_mem_append.mpr
      ⟨unquoted, fun other member => (isMargin_plain (List.mem_takeWhile_imp member)).1⟩
  rw [← @List.takeWhile_append_dropWhile _ isMargin right, ← List.append_assoc]
  rcases opensLine_cases opens with ⟨rest, shape⟩ | ⟨rest, shape⟩ <;> rw [shape] <;>
    exact annotationLength?_of_bar (bars_note (by decide) (by decide)) unquotedMargin (by decide)
      previous _

/-- Whether a text ends with a word and blanks. -/
def endsWithWord (letters text : Text) : Bool :=
  text.tails.any fun part => (word? letters part).any (·.all Character.isBlank)

theorem endsWithWord_of_suffix {letters part text : Text} (suffix : part <:+ text)
    (ends : endsWithWord letters part = true) : endsWithWord letters text = true := by
  rw [endsWithWord, List.any_eq_true] at ends ⊢
  rcases ends with ⟨tail, member, ended⟩
  exact ⟨tail, (List.mem_tails _ _).mpr (((List.mem_tails _ _).mp member).trans suffix), ended⟩

/-- A front without a character ends before the character. -/
theorem exists_before {left right front rest : Text} {character : Char}
    (same : left ++ character :: right = front ++ rest) (absent : character ∉ front) :
    ∃ before, left = front ++ before ∧ rest = before ++ character :: right := by
  rcases List.append_eq_append_iff.mp same with ⟨more, rfl, behind⟩ | ⟨before, whole, behind⟩
  · cases more with
    | nil => exact ⟨[], by simp, behind.symm⟩
    | cons first more =>
        rcases List.cons_eq_cons.mp behind with ⟨rfl, -⟩
        exact absurd (by simp) absent
  · exact ⟨before, whole, behind⟩

/-- An annotation that runs over a blank has the literal behind it and the word before. -/
theorem endsWithWord_of_annotation {part right : Text}
    (unquoted : ∀ character ∈ part, isQuote character = false) {length : Nat}
    (annotated : annotationLength? none (part ++ ' ' :: right) = some length) :
    endsWithWord "comment" part = true ∧ literalLength? right.skipBlanks ≠ none := by
  rw [annotationLength?_eq] at annotated
  rcases Option.bind_eq_some_iff.mp annotated with ⟨rest, noted, found⟩
  rcases Option.map_eq_some_iff.mp found with ⟨_, literal, -⟩
  rcases Option.bind_eq_some_iff.mp noted with ⟨behind, first, second⟩
  rcases word?_eq_some_iff.mp first with ⟨word, whole, spelled⟩
  rcases blanks?_eq_some second with ⟨gap, rfl, -, blank, solid⟩
  cases rest with
  | nil => cases literal
  | cons quote content =>
      have quoted : isQuote quote = true := by
        by_contra other
        rw [literalLength?_of_head (by simpa using other)] at literal
        cases literal
      have solidWord : ' ' ∉ word := by
        intro member
        have plain : ∀ letter ∈ ("comment" : Text), Character.IsPlainLetter letter := by decide
        rcases exists_of_mem_right spelled member with ⟨letter, known, spelledBy⟩
        cases Character.isBlank_eq_false_of_spells (plain letter known) spelledBy
      rcases exists_before whole solidWord with ⟨before, rfl, shape⟩
      have unquotedFront : quote ∉ before ++ [' '] := by
        intro member
        have plain : isQuote quote = false := by
          rcases List.mem_append.mp member with inFront | space
          · exact unquoted quote (List.mem_append_right _ inFront)
          · rw [List.mem_singleton.mp space]
            rfl
        rw [quoted] at plain
        cases plain
      rw [List.append_cons before] at shape
      rcases exists_before shape unquotedFront with ⟨more, rfl, rfl⟩
      rw [List.forall_mem_append, List.forall_mem_append] at blank
      have ended : word? "comment" (word ++ before) = some before :=
        word?_eq_some_iff.mpr ⟨word, rfl, spelled⟩
      refine ⟨?_, ?_⟩
      · rw [endsWithWord, List.any_eq_true]
        refine ⟨word ++ before, (List.mem_tails _ _).mpr List.suffix_rfl, ?_⟩
        rw [ended, Option.any_some, List.all_eq_true]
        exact blank.1.1
      · rw [Text.skipBlanks, List.dropWhile_append_of_pos blank.2,
          List.dropWhile_cons_of_neg (by simp [solid quote rfl]), literal]
        simp

/-! ## What is left on either side -/

section Sides

variable {previous : Option Char} {admits : Text → Prop} {left comment right : Text}

theorem meets_block (whole : blockLength? comment = some comment.length) (rest : Text) :
    Meets previous left (comment ++ rest) := by
  rcases blockLength?_eq_some whole with ⟨inside, rfl⟩
  refine ⟨by simp, by simp, fun _ _ _ => rfl, ?_, ?_⟩
  · rintro quote (rfl | rfl) - <;> simp
  · intro part _ _ inside
    exact annotationLength?_of_bar (bars_note (by decide) (by decide))
      (fun character member => (inside character member).unquoted) (by decide) none _

/-- A blank parts no annotation from its literal, if none is parted there. -/
theorem meets_blank (noLine : lineLength? right = none)
    (unannotated : endsWithWord "comment" (stripFrom previous 0 true left) = true →
      literalLength? right.skipBlanks = none) : Meets previous left (' ' :: right) where
  noBlock := by simp
  noDash := by simp
  noLine _ _ _ := by
    rw [lineLength?_eq_none_iff] at noLine ⊢
    exact noLine
  noDouble := by rintro quote (rfl | rfl) - <;> simp
  noNote part _ suffix inside := by
    cases annotated : annotationLength? none (part ++ ' ' :: right) with
    | none => rfl
    | some length =>
        rcases endsWithWord_of_annotation
          (fun character member => (inside character member).unquoted) annotated with
          ⟨ends, literal⟩
        exact absurd (unannotated (endsWithWord_of_suffix suffix ends)) literal

/-- Spaces and tabs that nothing before them goes on with. -/
theorem meets_margin {gap : Text} (nonempty : gap ≠ [])
    (margin : ∀ character ∈ gap, isMargin character = true)
    (solid : ∀ last, left.getLast? = some last → isMargin last = false)
    (unannotated : ∀ part, (∀ character ∈ part, isQuote character = false) →
      annotationLength? none (part ++ right) = none) : Meets previous left (gap ++ right) := by
  rcases List.exists_cons_of_ne_nil nonempty with ⟨first, more, rfl⟩
  have other {character : Char} (foreign : isMargin character = false) :
      (first :: more ++ right).head? ≠ some character := by
    rintro ⟨⟩
    rw [margin first List.mem_cons_self] at foreign
    cases foreign
  refine ⟨other (by decide), other (by decide), fun last ends inMargin => ?_, ?_, ?_⟩
  · rw [solid last ends] at inMargin
    cases inMargin
  · rintro quote (rfl | rfl) - <;> exact other (by decide)
  · intro part _ _ inside
    rw [← List.append_assoc]
    exact unannotated _ (List.forall_mem_append.mpr
      ⟨fun other member => (inside other member).unquoted,
        fun other member => (isMargin_plain (margin other member)).1⟩)

/-- What is left of a text behind a comment. -/
def behindComment (right : Text) : Text :=
  stripFrom (some '/') 0 true right

/-- A block comment leaves what stands before it and what stands behind it. -/
theorem Lexical.stripComments_block (lexical : Lexical true admits left)
    (whole : blockLength? comment = some comment.length) (right : Text) :
    stripComments (left ++ (comment ++ right)) = stripComments left ++ behindComment right := by
  rw [stripComments, lexical.stripFrom_append (meets_block whole right), stripFrom_block whole]
  rfl

/-- A blank is kept between them. -/
theorem Lexical.stripComments_blank (lexical : Lexical true admits left)
    (noLine : lineLength? right = none)
    (unannotated : endsWithWord "comment" (stripComments left) = true →
      literalLength? right.skipBlanks = none) :
    stripComments (left ++ ' ' :: right) = stripComments left ++ ' ' :: behindComment right := by
  have meets : Meets none left (' ' :: right) := meets_blank noLine unannotated
  have single : pieceAt (left.getLast?.or none) (' ' :: right) = ⟨1, true⟩ := by
    apply pieceAt_eq_single _ (by decide) (by decide) (startsWith_word 'c' _ ' ' right (by decide))
    rw [lineLength?_eq_none_iff] at noLine ⊢
    exact noLine
  rw [stripComments, lexical.stripFrom_append meets]
  simp only [stripFrom, single, if_true, Nat.sub_self]
  rw [@stripFrom_congr (some ' ') (some '/') rfl]
  rfl

/-- Lexical text up to the spaces and tabs at its end. -/
theorem Lexical.exists_margin (lexical : Lexical true admits left) :
    ∃ front tail, left = front ++ tail ∧ Lexical true admits front ∧
      (∀ character ∈ tail, isMargin character = true) ∧
      ∀ last, front.getLast? = some last → isMargin last = false := by
  refine ⟨left.rdropWhile isMargin, left.rtakeWhile isMargin,
    List.rdropWhile_append_rtakeWhile.symm, lexical.rdropWhile_margin,
    fun character member => List.mem_rtakeWhile_imp member, fun last ends => ?_⟩
  have nonempty : left.rdropWhile isMargin ≠ [] := by
    intro nothing
    rw [nothing] at ends
    cases ends
  rw [List.getLast?_eq_some_getLast nonempty] at ends
  cases ends
  simpa using List.rdropWhile_last_not isMargin _ nonempty

section Margin

variable {tail : Text} (lexical : Lexical true admits left)
  (margin : ∀ character ∈ tail, isMargin character = true)
  (solid : ∀ last, left.getLast? = some last → isMargin last = false)

include lexical margin solid

/-- At the end of a text, spaces and tabs are kept. -/
theorem stripComments_margin : stripComments (left ++ tail) = stripComments left ++ tail := by
  by_cases nothing : tail = []
  · rw [nothing, List.append_nil, List.append_nil]
  · have meets := @meets_margin none left [] tail nothing margin solid fun part unquoted =>
      by rw [List.append_nil]; exact annotationLength?_of_unquoted unquoted none
    rw [List.append_nil] at meets
    rw [stripComments, lexical.stripFrom_append meets,
      stripFrom_of_plain fun character member => isMargin_plain (margin character member)]
    rfl

/-- A line comment takes them along. -/
theorem stripComments_line (nonempty : tail ≠ [])
    (opens : opensLine (right.dropWhile isMargin) = true) :
    stripComments (left ++ (tail ++ right)) = stripComments left ++ behindLine right := by
  have meets : Meets none left (tail ++ right) :=
    meets_margin nonempty margin solid fun part unquoted =>
      annotationLength?_of_line opens unquoted none
  have skipped : (tail ++ right).dropWhile isMargin = right.dropWhile isMargin :=
    List.dropWhile_append_of_pos margin
  rw [← skipped] at opens
  rw [stripComments, lexical.stripFrom_append meets, stripFrom_line opens, behindLine, skipped]
  rfl

end Margin

/-- Before a line comment the blank and the blanks before it are removed. -/
theorem Lexical.collapse_line (lexical : Lexical true admits left)
    (opens : opensLine (right.dropWhile isMargin) = true) :
    Text.collapse (stripComments (left ++ ' ' :: right)) =
      Text.collapse (stripComments left ++ behindComment right) := by
  rcases lexical.exists_margin with ⟨front, tail, rfl, lexicalFront, margin, solid⟩
  have gap : ∀ character ∈ tail ++ [' '], isMargin character = true := by
    rw [List.forall_mem_append, List.forall_mem_singleton]
    exact ⟨margin, rfl⟩
  have removed := stripComments_line lexicalFront gap solid (by simp) opens
  have shape : front ++ tail ++ ' ' :: right = front ++ ((tail ++ [' ']) ++ right) := by simp
  rw [shape, removed, stripComments_margin lexicalFront margin solid, behindComment,
    stripFrom_line opens, List.append_assoc]
  refine (Text.collapse_loose (fun character member => ?_) fun last first _ head => ?_).symm
  · have known := margin character member
    simp only [isMargin, Bool.or_eq_true, beq_iff_eq] at known
    rcases known with rfl | rfl <;> decide
  · rcases behindLine_cases right with nothing | ⟨character, rest, shape, blank⟩
    · rw [nothing] at head
      cases head
    · rw [shape] at head
      cases head
      exact .inr blank

end Sides

end Sql

end SchemaSeed
