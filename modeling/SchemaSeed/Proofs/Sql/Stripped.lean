import SchemaSeed.Proofs.Sql.Lexical
import SchemaSeed.Proofs.Sql.Marker

/-! Comments of a text before other text.  The comments of lexical text are removed in the
same way whatever follows it, as long as nothing starts in it that goes on in what follows.
What is left of it is made of plain characters, literals and names alone. -/

namespace SchemaSeed

namespace Sql

/-! ## Annotations -/

/-- What follows the word COMMENT and blanks. -/
def note? (text : Text) : Option Text :=
  (word? "comment" text).bind blanks?

theorem annotationLength?_eq (previous : Option Char) (text : Text) :
    annotationLength? previous text =
      if isWordCharacter? previous then none
      else (note? text).bind fun rest =>
        (literalLength? rest).map fun length => text.length - rest.length + length := by
  simp only [annotationLength?, note?]
  split
  · rfl
  · cases (word? "comment" text).bind blanks? <;> rfl

theorem word?_append (letters left right : Text) :
    word? letters (left ++ right) = (word? letters left).map (· ++ right) ∨
      ∀ character ∈ left, ∃ letter ∈ letters, Character.spells letter character = true := by
  induction letters generalizing left with
  | nil => exact .inl rfl
  | cons letter letters induction =>
      cases left with
      | nil => exact .inr (by simp)
      | cons character left =>
          simp only [List.cons_append, word?]
          split
          · rename_i spelled
            rcases induction left with unchanged | inside
            · exact .inl unchanged
            · refine .inr (List.forall_mem_cons.mpr ⟨⟨letter, List.mem_cons_self, spelled⟩, ?_⟩)
              intro other member
              rcases inside other member with ⟨found, known, spelledBy⟩
              exact ⟨found, List.mem_cons_of_mem _ known, spelledBy⟩
          · exact .inl rfl

theorem blanks?_append (left right : Text) :
    (blanks? (left ++ right) = (blanks? left).map (· ++ right) ∧ blanks? left ≠ some []) ∨
      ∀ character ∈ left, Character.isBlank character = true := by
  cases left with
  | nil => exact .inr (by simp)
  | cons first left =>
      simp only [List.cons_append, blanks?]
      split
      · rename_i blank
        cases behind : Text.skipBlanks left with
        | nil =>
            refine .inr (List.forall_mem_cons.mpr ⟨blank, ?_⟩)
            exact List.dropWhile_eq_nil_iff.mp behind
        | cons next more =>
            refine .inl ⟨?_, by simp⟩
            rw [Text.skipBlanks] at behind
            rw [Text.skipBlanks, List.dropWhile_append, behind]
            rfl
      · exact .inl ⟨rfl, by simp⟩

/-- Where the text behind COMMENT and blanks starts depends on what follows only if all that
stands before that is part of them. -/
theorem note?_append (left right : Text) :
    (note? (left ++ right) = (note? left).map (· ++ right) ∧ note? left ≠ some []) ∨
      ∀ character ∈ left, IsMarkerCharacter character := by
  have plain : ∀ letter ∈ ("comment" : Text), Character.IsPlainLetter letter := by decide
  rcases word?_append "comment" left right with unchanged | inside
  · simp only [note?, unchanged]
    cases found : word? "comment" left with
    | none => exact .inl ⟨rfl, by simp⟩
    | some rest =>
        simp only [Option.map_some, Option.bind_some]
        rcases blanks?_append rest right with gap | blank
        · exact .inl gap
        · rcases word?_eq_some_iff.mp found with ⟨word, rfl, spelled⟩
          refine .inr fun character member => ?_
          rcases List.mem_append.mp member with first | second
          · exact isMarkerCharacter_of_spelled spelled plain character first
          · exact .inl (blank character second)
  · refine .inr fun character member => ?_
    rcases inside character member with ⟨letter, known, spelled⟩
    exact .inr ⟨letter, plain letter known, spelled⟩

theorem note?_eq_some {text rest : Text} (found : note? text = some rest) :
    ∃ front, text = front ++ rest ∧ front ≠ [] ∧
      ∀ character ∈ front, IsMarkerCharacter character := by
  have plain : ∀ letter ∈ ("comment" : Text), Character.IsPlainLetter letter := by decide
  rcases Option.bind_eq_some_iff.mp found with ⟨behind, first, second⟩
  rcases word?_eq_some_iff.mp first with ⟨word, rfl, spelled⟩
  rcases blanks?_eq_some second with ⟨gap, rfl, nonempty, blank, -⟩
  refine ⟨word ++ gap, by simp, by simp [nonempty], fun character member => ?_⟩
  rcases List.mem_append.mp member with first | second
  · exact isMarkerCharacter_of_spelled spelled plain character first
  · exact .inl (blank character second)

theorem literalLength?_of_head {character : Char} (unquoted : isQuote character = false)
    (rest : Text) : literalLength? (character :: rest) = none := by
  rw [literalLength?, if_neg]
  intro opens
  rw [isQuote_of_opens opens] at unquoted
  cases unquoted

theorem literalLength?_of_unquoted {text : Text}
    (unquoted : ∀ character ∈ text, isQuote character = false) : literalLength? text = none := by
  cases text with
  | nil => rfl
  | cons character rest =>
      exact literalLength?_of_head (unquoted character List.mem_cons_self) rest

theorem annotationLength?_of_unquoted {text : Text}
    (unquoted : ∀ character ∈ text, isQuote character = false) (previous : Option Char) :
    annotationLength? previous text = none := by
  rw [annotationLength?_eq]
  split
  · rfl
  · cases found : note? text with
    | none => rfl
    | some rest =>
        rcases note?_eq_some found with ⟨front, rfl, -, -⟩
        have none := literalLength?_of_unquoted fun character member =>
          unquoted character (List.mem_append_right front member)
        rw [Option.bind_some, none]
        rfl

theorem IsMarkerCharacter.plain {character : Char} (known : IsMarkerCharacter character) :
    isQuote character = false ∧ character ≠ '/' ∧ character ≠ '#' ∧ character ≠ '-' :=
  ⟨known.unquoted, known.ne (by decide) (by decide), known.ne (by decide) (by decide),
    known.ne (by decide) (by decide)⟩

/-! ## Pieces -/

theorem pieceAt_literal {quote : Char} {content rest : Text} (opens : quote = '\'' ∨ quote = '"')
    (complete : Complete quote content) (single : rest.head? ≠ some quote)
    (previous : Option Char) :
    pieceAt previous (quote :: content ++ [quote] ++ rest) =
      ⟨(quote :: content ++ [quote]).length, true⟩ := by
  have literal := complete.literalLength? opens single
  have noNote := annotationLength?_of_quote previous (isQuote_of_opens opens)
    (content ++ quote :: rest)
  rw [← List.cons_append] at noNote
  rw [← quoted_append]
  simp only [pieceAt, noNote, literal, Option.some_or]
  simp

theorem pieceAt_unquoted {previous : Option Char} {character : Char} {rest : Text}
    (unquoted : isQuote character = false)
    (noNote : annotationLength? previous (character :: rest) = none) :
    pieceAt previous (character :: rest) =
      ((blockLength? (character :: rest)).or (lineLength? (character :: rest))).elim ⟨1, true⟩
        fun length => ⟨length, false⟩ := by
  simp only [isQuote, Bool.or_eq_false_iff, beq_eq_false_iff_ne] at unquoted
  rcases unquoted with ⟨⟨noSingle, noDouble⟩, noBacktick⟩
  simp only [pieceAt, noNote, literalLength?, noSingle, noDouble, backtickedLength?, noBacktick,
    or_self, if_false, Option.none_or]
  cases (blockLength? (character :: rest)).or (lineLength? (character :: rest)) <;> rfl

theorem blockLength?_eq_none {text : Text} (closed : opensBlock text = false) :
    blockLength? text = none := by
  unfold blockLength?
  split
  · cases closed
  · rfl

theorem lineLength?_eq_none_iff {text : Text} :
    lineLength? text = none ↔ opensLine (text.dropWhile isMargin) = false := by
  simp [lineLength?]

theorem blockLength?_append {comment : Text} {length : Nat}
    (whole : blockLength? comment = some length) (rest : Text) :
    blockLength? (comment ++ rest) = some length := by
  have ends : ∀ (passed : Nat) (text : Text), blockEnd? passed text = some length →
      blockEnd? passed (text ++ rest) = some length := by
    intro passed text found
    induction text generalizing passed with
    | nil => cases found
    | cons character text induction =>
        by_cases star : character = '*'
        · subst star
          cases text with
          | nil =>
              simp [blockEnd?] at found
          | cons next text =>
              by_cases slash : next = '/'
              · subst slash
                exact found
              · rw [blockEnd?] at found
                · rw [List.cons_append, List.cons_append, blockEnd?]
                  · exact induction _ found
                  · simp [slash]
                · simp [slash]
        · rw [blockEnd?] at found
          · rw [List.cons_append, blockEnd?]
            · exact induction _ found
            · simp [star]
          · simp [star]
  rcases blockLength?_eq_some whole with ⟨inside, rfl⟩
  exact ends 2 inside whole

/-- A block comment is removed as a whole. -/
theorem pieceAt_block {comment : Text} (whole : blockLength? comment = some comment.length)
    (previous : Option Char) (rest : Text) :
    pieceAt previous (comment ++ rest) = ⟨comment.length, false⟩ := by
  have block := blockLength?_append whole rest
  rcases blockLength?_eq_some whole with ⟨inside, rfl⟩
  have noNote := annotationLength?_of_head previous
    (show Character.spells 'c' '/' = false by decide) ('*' :: inside ++ rest)
  rw [List.cons_append] at block ⊢
  rw [pieceAt_unquoted (by decide) noNote, block, Option.some_or, Option.elim_some]

/-- Plain characters that open no comment are kept by themselves. -/
theorem stripFrom_of_plain {part : Text}
    (plain : ∀ character ∈ part, isQuote character = false ∧ character ≠ '/' ∧
      character ≠ '#' ∧ character ≠ '-') (previous : Option Char) :
    stripFrom previous 0 true part = part := by
  induction part generalizing previous with
  | nil => rfl
  | cons character part induction =>
      have first := plain character List.mem_cons_self
      have closed := opensComment_eq_false first.2 part
      rw [opensComment, Bool.or_eq_false_iff] at closed
      have noNote := annotationLength?_of_unquoted
        (fun other member => (plain other member).1) previous
      have silent : Silent lineLength? (character :: part) [] :=
        silent_lineLength (fun other member => (plain other member).2.2) (by simp)
      have noLine := silent.1
      rw [List.append_nil] at noLine
      have single := pieceAt_unquoted first.1 noNote
      rw [blockLength?_eq_none closed.1, noLine] at single
      simp only [stripFrom, single, Option.or_none, Option.elim_none, if_true, Nat.sub_self]
      rw [induction (fun other member => plain other (List.mem_cons_of_mem _ member))]

/-! ## Text before other text -/

/-- No piece starts in `left` that goes on in `right`. -/
structure Meets (previous : Option Char) (left right : Text) : Prop where
  noBlock : right.head? ≠ some '*'
  noDash : right.head? ≠ some '-'
  noLine : ∀ last, left.getLast? = some last → isMargin last = true → lineLength? right = none
  noDouble : ∀ quote, (quote = '\'' ∨ quote = '"') → left.getLast? = some quote →
    right.head? ≠ some quote
  noNote : ∀ part, part ≠ [] → part <:+ stripFrom previous 0 true left →
    (∀ character ∈ part, IsMarkerCharacter character) →
      annotationLength? none (part ++ right) = none

theorem meets_nil (previous : Option Char) (left : Text) : Meets previous left [] where
  noBlock := by simp
  noDash := by simp
  noLine _ _ _ := rfl
  noDouble := by simp
  noNote part _ _ inside := by
    rw [List.append_nil]
    exact annotationLength?_of_unquoted (fun character member =>
      (inside character member).unquoted) none

theorem annotationLength?_eq_none_of_start {text : Text}
    (none : annotationLength? none text = none) (previous : Option Char) :
    annotationLength? previous text = Option.none := by
  rw [annotationLength?_eq] at none ⊢
  split
  · rfl
  · exact none

/-- What is kept of a text at once: a plain character, a literal or a name. -/
inductive Token (admits : Text → Prop) : Text → Prop
  | single {character : Char} (unquoted : isQuote character = false) : Token admits [character]
  | literal {quote : Char} {content : Text} (opens : quote = '\'' ∨ quote = '"')
      (complete : Complete quote content) : Token admits (quote :: content ++ [quote])
  | name {name : Text} (inside : ∀ character ∈ name, character ≠ backtick)
      (admitted : admits name) : Token admits (backtick :: name ++ [backtick])

/-- A first piece of the text that is the same whatever follows. -/
structure Starts (admits : Text → Prop) (previous : Option Char) (left part rest : Text)
    (kept : Bool) : Prop where
  whole : left = part ++ rest
  nonempty : part ≠ []
  later : Lexical true admits rest
  token : kept = true → Token admits part
  piece : ∀ right, Meets previous left right →
    pieceAt previous (left ++ right) = ⟨part.length, kept⟩

section Pieces

variable {admits : Text → Prop} {previous : Option Char} {left right : Text}

/-- A literal behind COMMENT is removed together with it. -/
theorem Lexical.starts_annotation (lexical : Lexical true admits left) {length : Nat}
    (annotated : annotationLength? previous left = some length) :
    ∃ part rest, Starts admits previous left part rest false := by
  rw [annotationLength?_eq] at annotated
  split at annotated
  · cases annotated
  · rename_i apart
    rcases Option.bind_eq_some_iff.mp annotated with ⟨rest, noted, found⟩
    rcases note?_eq_some noted with ⟨front, rfl, nonempty, inside⟩
    have later := lexical.tail_of_plain fun character member => (inside character member).plain
    rcases Option.map_eq_some_iff.mp found with ⟨_, literal, -⟩
    cases rest with
    | nil => cases literal
    | cons quote rest =>
        have opens : quote = '\'' ∨ quote = '"' := by
          by_contra other
          simp [literalLength?, other] at literal
        rcases later.behind_literal opens with ⟨content, behind, rfl, complete, single, later⟩
        refine ⟨front ++ (quote :: content ++ [quote]), behind, by simp, by simp, later, by simp,
          ?_⟩
        intro right meets
        have goesOn : note? (front ++ quote :: (content ++ quote :: behind) ++ right) =
            some (quote :: content ++ quote :: (behind ++ right)) := by
          rcases note?_append (front ++ quote :: (content ++ quote :: behind)) right with
            ⟨unchanged, -⟩ | marker
          · rw [unchanged, noted]
            simp
          · have unquoted := (marker quote (by simp)).unquoted
            rw [isQuote_of_opens opens] at unquoted
            cases unquoted
        have ends : (behind ++ right).head? ≠ some quote := by
          apply @head?_append_ne quote right (front ++ quote :: content) behind _ single
          intro last
          exact meets.noDouble quote opens (by simpa using last)
        have whole : annotationLength? previous
            (front ++ quote :: (content ++ quote :: behind) ++ right) =
              some (front ++ (quote :: content ++ [quote])).length := by
          rw [annotationLength?_eq, if_neg apart, goesOn, Option.bind_some,
            complete.literalLength? opens ends, Option.map_some]
          congr 1
          simp only [List.length_append, List.length_cons, List.length_nil]
          omega
        simp only [pieceAt, whole]

theorem Lexical.unannotated (lexical : Lexical true admits left) (nonempty : left ≠ [])
    (none : annotationLength? previous left = Option.none) (meets : Meets previous left right) :
    annotationLength? previous (left ++ right) = Option.none := by
  rcases note?_append left right with ⟨unchanged, more⟩ | inside
  · rw [annotationLength?_eq] at none ⊢
    split
    · rfl
    · rename_i apart
      rw [if_neg apart] at none
      rw [unchanged]
      cases noted : note? left with
      | none => rfl
      | some rest =>
          rw [noted, Option.bind_some, Option.map_eq_none_iff] at none
          cases rest with
          | nil => exact absurd noted more
          | cons first rest =>
              have unquoted : ¬ (first = '\'' ∨ first = '"') := by
                intro opens
                rcases note?_eq_some noted with ⟨front, rfl, -, inside⟩
                have later := lexical.tail_of_plain fun character member =>
                  (inside character member).plain
                rcases later.behind_literal opens with ⟨content, behind, rfl, complete, single, -⟩
                have literal := complete.literalLength? opens single
                rw [List.cons_append] at literal
                rw [literal] at none
                cases none
              simp [literalLength?, unquoted]
  · have kept := stripFrom_of_plain (fun character member => (inside character member).plain)
      previous
    have suffix : left <:+ stripFrom previous 0 true left := ⟨[], kept.symm⟩
    exact annotationLength?_eq_none_of_start (meets.noNote left nonempty suffix inside) previous

theorem not_margin_of_opensLine {text : Text} (opens : opensLine text = true) :
    text.takeWhile isMargin = [] ∧ text.dropWhile isMargin = text := by
  rcases opensLine_cases opens with ⟨more, rfl⟩ | ⟨more, rfl⟩ <;> exact ⟨rfl, rfl⟩

theorem isMargin_plain {character : Char} (margin : isMargin character = true) :
    isQuote character = false ∧ character ≠ '/' ∧ character ≠ '#' ∧ character ≠ '-' := by
  simp only [isMargin, Bool.or_eq_true, beq_iff_eq] at margin
  rcases margin with rfl | rfl <;> decide

/-- A line comment is removed together with the spaces and tabs before it. -/
theorem lineLength?_append {margin comment rest : Text}
    (blank : ∀ character ∈ margin, isMargin character = true) (opens : opensLine comment = true)
    (inside : ∀ character ∈ comment, isLineEnd character = false)
    (ended : ∃ character, rest.head? = some character ∧ isLineEnd character = true) :
    lineLength? (margin ++ (comment ++ rest)) = some (margin ++ comment).length := by
  have starts := opensLine_append opens rest
  have front : (margin ++ (comment ++ rest)).takeWhile isMargin = margin := by
    rw [List.takeWhile_append_of_pos blank, (not_margin_of_opensLine starts).1, List.append_nil]
  have back : (margin ++ (comment ++ rest)).dropWhile isMargin = comment ++ rest := by
    rw [List.dropWhile_append_of_pos blank, (not_margin_of_opensLine starts).2]
  have within : (comment ++ rest).takeWhile (!isLineEnd ·) = comment := by
    rw [List.takeWhile_append_of_pos (by simpa using inside)]
    rcases ended with ⟨character, first, ends⟩
    cases rest with
    | nil => cases first
    | cons next rest =>
        cases first
        simp [ends]
  simp only [lineLength?, front, back, starts, if_true, within, List.length_append]

theorem Lexical.exists_line (lexical : Lexical true admits left)
    (opens : opensLine (left.dropWhile isMargin) = true) :
    ∃ margin comment rest, left = margin ++ (comment ++ rest) ∧
      (∀ character ∈ margin, isMargin character = true) ∧ opensLine comment = true ∧
      (∀ character ∈ comment, isLineEnd character = false) ∧
      (∃ character, rest.head? = some character ∧ isLineEnd character = true) ∧
      Lexical true admits rest := by
  have margin : ∀ character ∈ left.takeWhile isMargin, isMargin character = true :=
    fun character member => List.mem_takeWhile_imp member
  have split := List.takeWhile_append_dropWhile (p := isMargin) (l := left)
  rw [← split] at lexical
  have behind := lexical.tail_of_plain fun character member =>
    isMargin_plain (margin character member)
  rcases behind.behind_line opens with ⟨comment, rest, whole, starts, inside, ended, later⟩
  exact ⟨_, comment, rest, whole ▸ split.symm, margin, starts, inside, ended, later⟩

theorem Lexical.starts_line (lexical : Lexical true admits left) {first : Char} {more : Text}
    (shape : left = first :: more) (unquoted : isQuote first = false)
    (noNote : annotationLength? previous left = none) (noBlock : first ≠ '/')
    (opens : opensLine (left.dropWhile isMargin) = true) :
    ∃ part rest, Starts admits previous left part rest false := by
  rcases lexical.exists_line opens with
    ⟨margin, comment, rest, whole, blank, starts, inside, ended, later⟩
  have nonempty : comment ≠ [] := by
    rintro rfl
    cases starts
  refine ⟨margin ++ comment, rest, by rw [whole, List.append_assoc], by simp [nonempty], later,
    by simp, fun right meets => ?_⟩
  have noNoteRight := lexical.unannotated (by simp [shape]) noNote meets
  have length : lineLength? (left ++ right) = some (margin ++ comment).length := by
    rw [whole, List.append_assoc, List.append_assoc]
    apply lineLength?_append blank starts inside
    rcases ended with ⟨character, head, ends⟩
    exact ⟨character, by rw [List.head?_append, head]; rfl, ends⟩
  rw [shape, List.cons_append] at length noNoteRight ⊢
  have closed : blockLength? (first :: (more ++ right)) = none := by
    apply blockLength?_eq_none
    unfold opensBlock
    split
    · rename_i same
      exact absurd (List.cons_eq_cons.mp same).1 noBlock
    · rfl
  rw [pieceAt_unquoted unquoted noNoteRight, closed, length, Option.none_or, Option.elim_some]

/-- A comment that does not start in a text does not start in it when more follows. -/
theorem Meets.opensBlock_append (meets : Meets previous left right) (nonempty : left ≠ [])
    (closed : opensBlock left = false) : opensBlock (left ++ right) = false := by
  rcases List.exists_cons_of_ne_nil nonempty with ⟨first, more, rfl⟩
  unfold opensBlock
  split
  · rename_i shape
    cases more with
    | nil =>
        have head : right.head? = some '*' := by
          rw [show right = _ from (List.cons_eq_cons.mp shape).2]
          rfl
        exact absurd head meets.noBlock
    | cons next more =>
        cases shape
        cases closed
  · rfl

theorem Meets.lineLength?_append (meets : Meets previous left right) (nonempty : left ≠ [])
    (closed : opensLine (left.dropWhile isMargin) = false) :
    lineLength? (left ++ right) = none := by
  rw [lineLength?_eq_none_iff, List.dropWhile_append]
  cases after : left.dropWhile isMargin with
  | nil =>
      have margin := List.dropWhile_eq_nil_iff.mp after
      have last := List.getLast?_eq_some_getLast nonempty
      have noLine := meets.noLine _ last (margin _ (List.mem_of_getLast? last))
      exact lineLength?_eq_none_iff.mp noLine
  | cons first more =>
      rw [after] at closed
      cases opens : opensLine (first :: more ++ right) with
      | false => exact opens
      | true =>
          rcases opensLine_cases opens with ⟨rest, shape⟩ | ⟨rest, shape⟩
          · cases shape
            cases closed
          · cases more with
            | nil =>
                have head : right.head? = some '-' := by
                  rw [show right = _ from (List.cons_eq_cons.mp shape).2]
                  rfl
                exact absurd head meets.noDash
            | cons next more =>
                cases shape
                cases closed

/-- A first character outside of quotes and of block comments is kept by itself, or an annotation
or a line comment starts with it. -/
theorem Lexical.exists_starts_plain {character : Char} {rest : Text}
    (whole : Lexical true admits (character :: rest)) (unquoted : isQuote character = false)
    (closed : opensBlock (character :: rest) = false)
    (noLine : opensLine (character :: rest) = false) (later : Lexical true admits rest) :
    ∃ part behind kept, Starts admits previous (character :: rest) part behind kept := by
  have nonempty : character :: rest ≠ [] := List.cons_ne_nil _ _
  cases noNote : annotationLength? previous (character :: rest) with
  | some length =>
      rcases whole.starts_annotation noNote with ⟨part, behind, starts⟩
      exact ⟨part, behind, false, starts⟩
  | none =>
      cases opens : opensLine ((character :: rest).dropWhile isMargin) with
      | true =>
          have noBlock : character ≠ '/' := by
            rintro rfl
            exact absurd (noLine.symm.trans opens) (by decide)
          rcases whole.starts_line rfl unquoted noNote noBlock opens with ⟨part, behind, starts⟩
          exact ⟨part, behind, false, starts⟩
      | false =>
          refine ⟨[character], rest, true, rfl, by simp, later, fun _ => .single unquoted, ?_⟩
          intro right meets
          have noNoteRight := whole.unannotated nonempty noNote meets
          have noBlock := blockLength?_eq_none (meets.opensBlock_append nonempty closed)
          have noLine := meets.lineLength?_append nonempty opens
          rw [List.cons_append] at noNoteRight noBlock noLine ⊢
          rw [pieceAt_unquoted unquoted noNoteRight, noBlock, noLine]
          rfl

/-- Every lexical text starts with a piece that is the same whatever follows the text. -/
theorem Lexical.exists_starts (lexical : Lexical true admits left) (nonempty : left ≠ []) :
    ∃ part rest kept, Starts admits previous left part rest kept := by
  have whole := lexical
  cases lexical with
  | nil => exact absurd rfl nonempty
  | @plain character rest unquoted code later =>
      have closed := code rfl
      rw [opensComment, Bool.or_eq_false_iff] at closed
      exact whole.exists_starts_plain unquoted closed.1 closed.2 later
  | @literal quote content rest opens complete single later =>
      refine ⟨quote :: content ++ [quote], rest, true, by simp, by simp, later,
        fun _ => .literal opens complete, fun right meets => ?_⟩
      have ends : (rest ++ right).head? ≠ some quote := by
        apply @head?_append_ne quote right (quote :: content) rest _ single
        intro last
        exact meets.noDouble quote opens (by simpa using last)
      rw [quoted_append, List.append_assoc]
      exact pieceAt_literal opens complete ends previous
  | @name name rest inside admitted later =>
      exact ⟨backtick :: name ++ [backtick], rest, true, by simp, by simp, later,
        fun _ => .name inside admitted, fun right _ => by
          have piece := pieceAt_name inside (rest ++ right) previous
          simpa using piece⟩
  | @block comment rest _ found later =>
      have nonempty : comment ≠ [] := by
        rintro rfl
        cases found
      refine ⟨comment, rest, false, rfl, nonempty, later, by simp, fun right _ => ?_⟩
      rw [List.append_assoc]
      exact pieceAt_block found previous (rest ++ right)
  | @line comment rest _ opens inside ended later =>
      have starts := opensLine_append opens rest
      have back := (not_margin_of_opensLine starts).2
      have first : ∃ character more, comment ++ rest = character :: more ∧
          (character = '#' ∨ character = '-') := by
        rcases opensLine_cases starts with ⟨more, shape⟩ | ⟨more, shape⟩
        · exact ⟨'#', more, shape, .inl rfl⟩
        · exact ⟨'-', _, shape, .inr rfl⟩
      rcases first with ⟨character, more, shape, known⟩
      have noNote : annotationLength? previous (comment ++ rest) = none := by
        rw [shape]
        exact annotationLength?_of_head previous (by rcases known with rfl | rfl <;> decide) more
      rcases whole.starts_line shape (by rcases known with rfl | rfl <;> decide) noNote
        (by rcases known with rfl | rfl <;> decide) (back.symm ▸ starts) with ⟨part, rest, starts⟩
      exact ⟨part, rest, false, starts⟩

theorem Starts.meets {part rest : Text} {kept : Bool}
    (starts : Starts admits previous left part rest kept) (meets : Meets previous left right) :
    Meets (part.getLast?.or previous) rest right where
  noBlock := meets.noBlock
  noDash := meets.noDash
  noLine last ends := by
    apply meets.noLine last
    rw [starts.whole, List.getLast?_append, ends]
    rfl
  noDouble quote opens last := by
    apply meets.noDouble quote opens
    rw [starts.whole, List.getLast?_append, last]
    rfl
  noNote tail nonempty suffix inside := by
    apply meets.noNote tail nonempty _ inside
    have piece := starts.piece [] (meets_nil previous left)
    rw [List.append_nil, starts.whole] at piece
    rw [starts.whole, stripFrom_pieceAt starts.nonempty piece]
    exact suffix.trans (List.suffix_append _ _)

/-- Comments are removed from lexical text as if nothing followed it. -/
theorem Lexical.stripFrom_append (lexical : Lexical true admits left)
    (meets : Meets previous left right) :
    stripFrom previous 0 true (left ++ right) =
      stripFrom previous 0 true left ++ stripFrom (left.getLast?.or previous) 0 true right := by
  generalize size : left.length = bound
  induction bound using Nat.strong_induction_on generalizing left previous with
  | h bound induction =>
      by_cases nonempty : left = []
      · rw [nonempty]
        rfl
      · rcases lexical.exists_starts nonempty with ⟨part, rest, kept, starts⟩
        have piece := starts.piece right meets
        have alone := starts.piece [] (meets_nil previous left)
        have later := starts.meets meets
        rcases starts with ⟨rfl, something, lexicalRest, -, -⟩
        have shorter : rest.length < bound := by
          have positive := List.length_pos_iff.mpr something
          rw [← size, List.length_append]
          omega
        rw [List.append_nil] at alone
        rw [List.append_assoc] at piece ⊢
        rw [stripFrom_pieceAt something piece, stripFrom_pieceAt something alone,
          induction _ shorter lexicalRest later rfl, List.append_assoc]
        congr 2
        rw [List.getLast?_append]
        cases rest.getLast? <;> rfl

end Pieces

/-! ## What is left of lexical text -/

theorem Token.append {admits : Text → Prop} {part rest : Text} (token : Token admits part)
    (lexical : Lexical false admits rest) : Lexical false admits (part ++ rest) := by
  cases token with
  | single unquoted => exact .plain unquoted (by simp) lexical
  | @literal quote content opens complete =>
      rw [List.append_assoc, List.singleton_append]
      by_cases doubled : rest.head? = some quote
      · -- Without the comment between them, two literals are one.
        rcases List.head?_eq_some_iff.mp doubled with ⟨behind, rfl⟩
        rcases lexical.behind_literal opens with ⟨more, behind, rfl, completeMore, single, later⟩
        have whole := Lexical.literal opens (complete.append (.doubled completeMore)) single later
        simpa using whole
      · exact .literal opens complete doubled lexical
  | name inside admitted =>
      rw [List.append_assoc, List.singleton_append]
      exact .name inside admitted lexical

theorem Lexical.stripped {admits : Text → Prop} {left : Text}
    (lexical : Lexical true admits left) (previous : Option Char) :
    Lexical false admits (stripFrom previous 0 true left) := by
  generalize size : left.length = bound
  induction bound using Nat.strong_induction_on generalizing left previous with
  | h bound induction =>
      by_cases nonempty : left = []
      · rw [nonempty]
        exact .nil
      · rcases @lexical.exists_starts admits previous left nonempty with
          ⟨part, rest, kept, starts⟩
        have alone := starts.piece [] (meets_nil previous left)
        rcases starts with ⟨rfl, something, lexicalRest, token, -⟩
        have shorter : rest.length < bound := by
          have positive := List.length_pos_iff.mpr something
          rw [← size, List.length_append]
          omega
        have later := induction _ shorter lexicalRest (part.getLast?.or previous) rfl
        rw [List.append_nil] at alone
        rw [stripFrom_pieceAt something alone]
        cases kept with
        | true => exact (token rfl).append later
        | false => exact later

end Sql

end SchemaSeed
