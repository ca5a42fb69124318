import Mathlib.Data.Nat.Find
import SchemaSeed.Proofs.Sql.Recognition

/-! The tokens that the removal of comments tells apart.  Their forms are said here as a
grammar, without the searches that find them.  Every text is a sequence of tokens in exactly
one way, and the tokens that are no comments are what is left of it. -/

namespace SchemaSeed

namespace Sql

/-! ## Forms of tokens -/

/-- The kinds of tokens, in the order in which they are looked for.  A note is the word
`COMMENT` with the literal behind it. -/
inductive TokenKind where
  | note
  | literal
  | name
  | block
  | line
  | character
deriving DecidableEq

/-- A string literal from its opening to its closing quote. -/
def IsStringLiteral (token : Text) : Prop :=
  ∃ quote content, (quote = '\'' ∨ quote = '"') ∧ Complete quote content ∧
    token = quote :: content ++ [quote]

namespace TokenKind

def rank : TokenKind → Nat
  | note => 0
  | literal => 1
  | name => 2
  | block => 3
  | line => 4
  | character => 5

def isComment : TokenKind → Bool
  | note | block | line => true
  | literal | name | character => false

/-- The texts that are tokens of a kind. -/
def Form : TokenKind → Text → Prop
  | note, token => ∃ word gap literal, token = word ++ gap ++ literal ∧
      Spelled "comment" word ∧ gap ≠ [] ∧
      (∀ character ∈ gap, Character.isBlank character = true) ∧ IsStringLiteral literal
  | literal, token => IsStringLiteral token
  | name, token => ∃ name, token = backtick :: name ++ [backtick] ∧
      ∀ character ∈ name, character ≠ backtick
  | block, token => ∃ inside, token = '/' :: '*' :: inside ++ ['*', '/']
  | line, token => ∃ margin marker remark, token = margin ++ marker ++ remark ∧
      (∀ character ∈ margin, character = ' ' ∨ character = '\t') ∧
      (marker = ['#'] ∨ marker = ['-', '-']) ∧
      ∀ character ∈ remark, character ≠ '\n' ∧ character ≠ '\r'
  | character, token => ∃ character, token = [character]

/-- Whether a token of the first length is taken rather than one of the second: a block
comment ends at the nearest end, all else reaches as far as it can. -/
def Prefers : TokenKind → Nat → Nat → Prop
  | block, length, other => length ≤ other
  | note, length, other | literal, length, other | name, length, other
  | line, length, other | character, length, other => other ≤ length

/-- The token of a kind with which a text starts.  A note starts at the start of a word. -/
structure Begins (kind : TokenKind) (previous : Option Char) (text token : Text) : Prop where
  front : token <+: text
  form : kind.Form token
  boundary : kind = note → isWordCharacter? previous = false
  extent : ∀ other, other <+: text → kind.Form other → kind.Prefers token.length other.length

/-- No kind that is looked for earlier has a token here. -/
def First (kind : TokenKind) (previous : Option Char) (text : Text) : Prop :=
  ∀ earlier : TokenKind, earlier.rank < kind.rank → ∀ token, ¬ earlier.Begins previous text token

end TokenKind

/-- The tokens of a text from left to right, each of the first kind that has one at its
place. -/
inductive Tokenized : Option Char → Text → List (TokenKind × Text) → Prop
  | nil {previous : Option Char} : Tokenized previous [] []
  | cons {previous : Option Char} {text token rest : Text} {kind : TokenKind}
      {tokens : List (TokenKind × Text)} (shape : text = token ++ rest)
      (begins : kind.Begins previous text token) (first : kind.First previous text)
      (later : Tokenized token.getLast? rest tokens) :
      Tokenized previous text ((kind, token) :: tokens)

/-- The text of tokens in a row. -/
def written (tokens : List (TokenKind × Text)) : Text :=
  (tokens.map (·.2)).flatten

/-- The text of the tokens that are no comments. -/
def uncommented (tokens : List (TokenKind × Text)) : Text :=
  written (tokens.filter fun token => !token.1.isComment)

/-! ## What the searches find -/

theorem exists_of_closing? {quote : Char} {text : Text} {length : Nat}
    (found : closing? quote text = some length) :
    ∃ content rest, text = content ++ quote :: rest ∧ Complete quote content ∧
      content.length + 1 = length := by
  fun_induction closing? quote text generalizing length with
  | case1 => cases found
  | case2 => cases found
  | case3 character rest induction =>
      rcases Option.map_eq_some_iff.mp found with ⟨_, closed, rfl⟩
      rcases induction closed with ⟨content, behind, rfl, complete, rfl⟩
      exact ⟨'\\' :: character :: content, behind, rfl, .escaped complete, rfl⟩
  | case4 =>
      cases found
      exact ⟨[], [], rfl, .nil, rfl⟩
  | case5 => cases found
  | case6 character next rest noEscape different induction =>
      rcases Option.map_eq_some_iff.mp found with ⟨_, closed, rfl⟩
      rcases induction closed with ⟨content, behind, shape, complete, rfl⟩
      exact ⟨character :: content, behind, by rw [shape]; rfl, .plain different noEscape complete,
        rfl⟩
  | case7 character next rest _ same =>
      cases found
      exact ⟨[], next :: rest, by rw [Decidable.not_not.mp same]; rfl, .nil, rfl⟩
  | case8 character next rest _ same doubled later closed induction =>
      cases found
      rcases induction closed with ⟨content, behind, rfl, complete, rfl⟩
      refine ⟨quote :: quote :: content, behind, ?_, .doubled complete, rfl⟩
      rw [Decidable.not_not.mp same, Decidable.not_not.mp doubled]
      rfl
  | case9 character next rest _ same =>
      cases found
      exact ⟨[], next :: rest, by rw [Decidable.not_not.mp same]; rfl, .nil, rfl⟩

/-- A literal ends as late as it can. -/
theorem Complete.le_closing? {quote : Char} {content : Text} (complete : Complete quote content)
    (noEscape : quote ≠ '\\') (rest : Text) :
    ∃ length, Sql.closing? quote (content ++ quote :: rest) = some length ∧
      content.length + 1 ≤ length := by
  induction complete with
  | nil =>
      by_cases doubled : rest.head? = some quote
      · rcases List.head?_eq_some_iff.mp doubled with ⟨rest, rfl⟩
        rw [List.nil_append, closing?_doubled noEscape]
        cases Sql.closing? quote rest with
        | none => exact ⟨1, rfl, Nat.le_refl 1⟩
        | some later => exact ⟨later + 2, rfl, Nat.le_add_left 1 (later + 1)⟩
      · exact ⟨1, closing?_single noEscape doubled, Nat.le_refl 1⟩
  | plain different noBackslash _ induction =>
      rcases induction with ⟨length, closed, bound⟩
      refine ⟨length + 1, ?_, Nat.succ_le_succ bound⟩
      rw [List.cons_append, closing?_ordinary different noBackslash, closed]
      rfl
  | escaped _ induction =>
      rcases induction with ⟨length, closed, bound⟩
      refine ⟨length + 2, ?_, Nat.add_le_add_right bound 2⟩
      rw [List.cons_append, List.cons_append, closing?_escaped, closed]
      rfl
  | doubled _ induction =>
      rcases induction with ⟨length, closed, bound⟩
      refine ⟨length + 2, ?_, Nat.add_le_add_right bound 2⟩
      rw [List.cons_append, List.cons_append, closing?_doubled noEscape, closed]
      rfl

theorem exists_of_blockEnd? {passed length : Nat} {text : Text}
    (found : blockEnd? passed text = some length) :
    ∃ inside rest, text = inside ++ '*' :: '/' :: rest ∧ passed + inside.length + 2 = length := by
  fun_induction blockEnd? passed text with
  | case1 passed rest =>
      cases found
      exact ⟨[], rest, rfl, rfl⟩
  | case2 passed character rest _ induction =>
      rcases induction found with ⟨inside, behind, rfl, rfl⟩
      exact ⟨character :: inside, behind, rfl, by rw [List.length_cons]; omega⟩
  | case3 => cases found

/-- A block comment ends at the nearest end. -/
theorem blockEnd?_le (passed : Nat) (inside rest : Text) :
    ∃ length, blockEnd? passed (inside ++ '*' :: '/' :: rest) = some length ∧
      length ≤ passed + inside.length + 2 := by
  induction inside generalizing passed with
  | nil => exact ⟨passed + 2, rfl, Nat.le_refl _⟩
  | cons character inside induction =>
      by_cases ends : character = '*' ∧ (inside ++ '*' :: '/' :: rest).head? = some '/'
      · rcases ends with ⟨rfl, slash⟩
        rcases List.head?_eq_some_iff.mp slash with ⟨more, shape⟩
        refine ⟨passed + 2, ?_, by omega⟩
        rw [List.cons_append, shape, blockEnd?]
      · rcases induction (passed + 1) with ⟨length, found, bound⟩
        refine ⟨length, ?_, by rw [List.length_cons]; omega⟩
        rw [List.cons_append, blockEnd?_cons ends, found]

namespace TokenKind

/-- The search for a token of a kind. -/
def length? (previous : Option Char) (text : Text) : TokenKind → Option Nat
  | note => annotationLength? previous text
  | literal => literalLength? text
  | name => backtickedLength? text
  | block => blockLength? text
  | line => lineLength? text
  | character => text.head?.map fun _ => 1

/-- A search that finds a token wherever there is one, and among several the preferred one. -/
structure Reads (kind : TokenKind) (search : Text → Option Nat) : Prop where
  sound : ∀ {text : Text} {length : Nat}, search text = some length →
    ∃ token rest, text = token ++ rest ∧ kind.Form token ∧ token.length = length
  bound : ∀ {token : Text} (rest : Text), kind.Form token →
    ∃ length, search (token ++ rest) = some length ∧ kind.Prefers length token.length

theorem reads_literal : literal.Reads literalLength? where
  sound {text length} found := by
    cases text with
    | nil => cases found
    | cons quote text =>
        rw [literalLength?] at found
        split at found
        · rename_i opens
          rcases Option.map_eq_some_iff.mp found with ⟨_, closed, rfl⟩
          rcases exists_of_closing? closed with ⟨content, rest, rfl, complete, rfl⟩
          exact ⟨quote :: content ++ [quote], rest, by simp,
            ⟨quote, content, opens, complete, rfl⟩, by simp⟩
        · cases found
  bound rest form := by
    rcases form with ⟨quote, content, opens, complete, rfl⟩
    have noEscape : quote ≠ '\\' := by rcases opens with rfl | rfl <;> decide
    rcases complete.le_closing? noEscape rest with ⟨length, closed, bound⟩
    refine ⟨length + 1, ?_, ?_⟩
    · rw [← quoted_append, List.cons_append, literalLength?, if_pos opens, closed]
      rfl
    · simp only [Prefers, List.length_append, List.length_cons, List.length_nil]
      omega

theorem reads_name : name.Reads backtickedLength? where
  sound {text length} found := by
    cases text with
    | nil => cases found
    | cons first text =>
        rcases exists_of_backtickedLength? (by rw [found]; rfl) with ⟨rfl, name, rest, rfl, inside⟩
        have apart : ∀ character ∈ name, character ≠ backtick := by
          rintro character member rfl
          exact inside member
        rw [backtickedLength?_append apart, Option.some.injEq] at found
        subst found
        exact ⟨backtick :: name ++ [backtick], rest, by simp, ⟨name, rfl, apart⟩, by simp⟩
  bound rest form := by
    rcases form with ⟨name, rfl, apart⟩
    refine ⟨name.length + 2, ?_, ?_⟩
    · simpa using backtickedLength?_append apart rest
    · simp [Prefers]

theorem reads_block : block.Reads blockLength? where
  sound {text length} found := by
    rcases blockLength?_eq_some found with ⟨text, rfl⟩
    rcases exists_of_blockEnd? found with ⟨inside, rest, rfl, rfl⟩
    exact ⟨'/' :: '*' :: inside ++ ['*', '/'], rest, by simp, ⟨inside, rfl⟩, by simp; omega⟩
  bound rest form := by
    rcases form with ⟨inside, rfl⟩
    rcases blockEnd?_le 2 inside rest with ⟨length, found, bound⟩
    refine ⟨length, ?_, ?_⟩
    · simpa [blockLength?] using found
    · simp only [Prefers, List.length_append, List.length_cons, List.length_nil]
      omega

theorem isMargin_iff {character : Char} :
    isMargin character = true ↔ character = ' ' ∨ character = '\t' := by
  simp [isMargin]

theorem isLineEnd_eq_false_iff {character : Char} :
    isLineEnd character = false ↔ character ≠ '\n' ∧ character ≠ '\r' := by
  simp [isLineEnd]

theorem exists_marker {text : Text} (opens : opensLine text = true) :
    ∃ marker rest, text = marker ++ rest ∧ (marker = ['#'] ∨ marker = ['-', '-']) := by
  rcases opensLine_cases opens with ⟨rest, rfl⟩ | ⟨rest, rfl⟩
  · exact ⟨['#'], rest, rfl, .inl rfl⟩
  · exact ⟨['-', '-'], rest, rfl, .inr rfl⟩

theorem takeWhile_marker {marker : Text} (known : marker = ['#'] ∨ marker = ['-', '-'])
    (rest : Text) :
    (marker ++ rest).takeWhile (!isLineEnd ·) = marker ++ rest.takeWhile (!isLineEnd ·) := by
  rcases known with rfl | rfl <;> rfl

/-- The margin of a line comment ends where its marker starts. -/
theorem lineLength?_append {margin marker : Text}
    (blank : ∀ character ∈ margin, isMargin character = true)
    (known : marker = ['#'] ∨ marker = ['-', '-']) (rest : Text) :
    lineLength? (margin ++ (marker ++ rest)) =
      some (margin ++ marker ++ rest.takeWhile (!isLineEnd ·)).length := by
  have front : (margin ++ (marker ++ rest)).takeWhile isMargin = margin := by
    rw [List.takeWhile_append_of_pos blank]
    rcases known with rfl | rfl <;> simp [isMargin]
  have behind : (margin ++ (marker ++ rest)).dropWhile isMargin = marker ++ rest := by
    rw [List.dropWhile_append_of_pos blank]
    rcases known with rfl | rfl <;> rfl
  have opens : opensLine (marker ++ rest) = true := by
    rcases known with rfl | rfl <;> rfl
  rw [lineLength?]
  simp only [front, behind, opens, if_true, takeWhile_marker known, List.length_append,
    Nat.add_assoc]

theorem reads_line : line.Reads lineLength? where
  sound {text length} found := by
    have opens : opensLine (text.dropWhile isMargin) = true := by
      cases opens : opensLine (text.dropWhile isMargin) with
      | true => rfl
      | false =>
          rw [lineLength?_eq_none_iff.mpr opens] at found
          cases found
    rcases exists_marker opens with ⟨marker, more, behind, known⟩
    have blank : ∀ character ∈ text.takeWhile isMargin, isMargin character = true :=
      List.all_eq_true.mp List.all_takeWhile
    have whole := @List.takeWhile_append_dropWhile _ isMargin text
    rw [behind] at whole
    rw [← whole, lineLength?_append blank known, Option.some.injEq] at found
    refine ⟨_, more.dropWhile (!isLineEnd ·), ?_, ⟨_, marker, _, rfl, ?_, known, ?_⟩, found⟩
    · rw [List.append_assoc, List.takeWhile_append_dropWhile, List.append_assoc, whole]
    · exact fun character member => isMargin_iff.mp (blank character member)
    · intro character member
      rw [← isLineEnd_eq_false_iff]
      simpa using List.mem_takeWhile_imp member
  bound rest form := by
    rcases form with ⟨margin, marker, remark, rfl, blank, known, inside⟩
    have margins : ∀ character ∈ margin, isMargin character = true :=
      fun character member => isMargin_iff.mpr (blank character member)
    have remarks : (remark ++ rest).takeWhile (!isLineEnd ·) =
        remark ++ rest.takeWhile (!isLineEnd ·) := by
      apply List.takeWhile_append_of_pos
      intro character member
      rw [isLineEnd_eq_false_iff.mpr (inside character member)]
      rfl
    refine ⟨_, by rw [List.append_assoc, List.append_assoc, lineLength?_append margins known], ?_⟩
    simp only [Prefers, remarks, List.length_append]
    omega

theorem note?_append_of_spelled {word gap rest : Text} (spelled : Spelled "comment" word)
    (nonempty : gap ≠ []) (blank : ∀ character ∈ gap, Character.isBlank character = true)
    (solid : ∀ character, rest.head? = some character → Character.isBlank character = false) :
    note? (word ++ (gap ++ rest)) = some rest := by
  rcases List.exists_cons_of_ne_nil nonempty with ⟨first, gap, rfl⟩
  rw [List.forall_mem_cons] at blank
  have gone : Text.skipBlanks (gap ++ rest) = rest := by
    rw [Text.skipBlanks, List.dropWhile_append_of_pos blank.2]
    cases rest with
    | nil => rfl
    | cons character rest => simp [solid character rfl]
  rw [note?, word?_eq_some_iff.mpr ⟨word, rfl, spelled⟩, Option.bind_some, List.cons_append,
    blanks?, if_pos blank.1, gone]

theorem reads_note : note.Reads (annotationLength? none) where
  sound {text length} found := by
    rw [annotationLength?_eq, if_neg (by simp [isWordCharacter?])] at found
    rcases Option.bind_eq_some_iff.mp found with ⟨behind, noted, literal⟩
    rcases Option.bind_eq_some_iff.mp noted with ⟨more, first, second⟩
    rcases word?_eq_some_iff.mp first with ⟨word, rfl, spelled⟩
    rcases blanks?_eq_some second with ⟨gap, rfl, nonempty, blank, -⟩
    rcases Option.map_eq_some_iff.mp literal with ⟨_, measured, rfl⟩
    rcases reads_literal.sound measured with ⟨token, rest, rfl, form, rfl⟩
    refine ⟨word ++ gap ++ token, rest, by simp, ⟨word, gap, token, rfl, spelled, nonempty, blank,
      form⟩, ?_⟩
    simp only [List.length_append]
    omega
  bound {token} rest form := by
    rcases form with ⟨word, gap, literal, rfl, spelled, nonempty, blank, form⟩
    rcases reads_literal.bound rest form with ⟨length, measured, bound⟩
    have solid : ∀ character, (literal ++ rest).head? = some character →
        Character.isBlank character = false := by
      rcases form with ⟨quote, content, opens, -, rfl⟩
      rintro character ⟨⟩
      rcases opens with rfl | rfl <;> rfl
    have noted := note?_append_of_spelled spelled nonempty blank solid
    have found : annotationLength? none (word ++ (gap ++ (literal ++ rest))) =
        some (word.length + gap.length + length) := by
      rw [annotationLength?_eq, if_neg (by simp [isWordCharacter?]), noted, Option.bind_some,
        measured, Option.map_some]
      simp only [List.length_append]
      congr 1
      omega
    refine ⟨_, by rw [List.append_assoc, List.append_assoc, found], ?_⟩
    simp only [Prefers, List.length_append] at bound ⊢
    omega

theorem reads_character : character.Reads (length? none · character) where
  sound {text length} found := by
    cases text with
    | nil => cases found
    | cons first text =>
        cases found
        exact ⟨[first], text, rfl, ⟨first, rfl⟩, rfl⟩
  bound rest form := by
    rcases form with ⟨first, rfl⟩
    exact ⟨1, rfl, Nat.le_refl 1⟩

theorem length?_eq (kind : TokenKind) (previous : Option Char) (text : Text) :
    kind.length? previous text =
      if kind = note ∧ isWordCharacter? previous = true then none
      else kind.length? none text := by
  cases kind with
  | note =>
      simp only [length?, annotationLength?_eq, true_and]
      split <;> simp [isWordCharacter?]
  | literal | name | block | line | character => simp [length?]

theorem reads (kind : TokenKind) : kind.Reads (kind.length? none) := by
  cases kind with
  | note => exact reads_note
  | literal => exact reads_literal
  | name => exact reads_name
  | block => exact reads_block
  | line => exact reads_line
  | character => exact reads_character

theorem Prefers.antisymm {kind : TokenKind} {length other : Nat}
    (first : kind.Prefers length other) (second : kind.Prefers other length) : length = other := by
  cases kind <;> exact Nat.le_antisymm ‹_› ‹_›

/-- A kind has a token exactly where its search finds one. -/
theorem begins_iff {kind : TokenKind} {previous : Option Char} {text token : Text} :
    kind.Begins previous text token ↔
      token <+: text ∧ kind.length? previous text = some token.length := by
  rw [length?_eq]
  constructor
  · intro begins
    refine ⟨begins.front, ?_⟩
    rw [if_neg]
    · rcases begins.front with ⟨rest, shape⟩
      rcases kind.reads.bound rest begins.form with ⟨length, found, prefers⟩
      rw [shape] at found
      rcases kind.reads.sound found with ⟨other, more, shapeOther, form, rfl⟩
      have extent := begins.extent other ⟨more, shapeOther.symm⟩ form
      rw [found, extent.antisymm prefers]
    · rintro ⟨same, inside⟩
      rw [begins.boundary same] at inside
      cases inside
  · rintro ⟨front, found⟩
    split at found
    · cases found
    · rename_i apart
      rcases kind.reads.sound found with ⟨other, more, shape, form, length⟩
      have same : token = other :=
        (List.prefix_of_prefix_length_le front ⟨more, shape.symm⟩ length.ge).eq_of_length
          length.symm
      refine ⟨front, same ▸ form, fun note => ?_, fun longer prefixed formLonger => ?_⟩
      · simpa [note] using apart
      · rcases prefixed with ⟨rest, rfl⟩
        rcases kind.reads.bound rest formLonger with ⟨best, foundBest, prefers⟩
        rw [found, Option.some.injEq] at foundBest
        rwa [foundBest]

theorem length?_eq_none {kind : TokenKind} {previous : Option Char} {text : Text}
    (nowhere : ∀ token, ¬ kind.Begins previous text token) : kind.length? previous text = none := by
  cases found : kind.length? previous text with
  | none => rfl
  | some length =>
      have known := found
      rw [length?_eq] at known
      split at known
      · cases known
      · rcases kind.reads.sound known with ⟨token, rest, shape, -, rfl⟩
        exact absurd (begins_iff.mpr ⟨⟨rest, shape.symm⟩, found⟩) (nowhere token)

/-- The piece that is taken is the token of the first kind that has one. -/
theorem Begins.pieceAt {kind : TokenKind} {previous : Option Char} {text token : Text}
    (begins : kind.Begins previous text token) (first : kind.First previous text) :
    Sql.pieceAt previous text = ⟨token.length, !kind.isComment⟩ := by
  have found := (begins_iff.mp begins).2
  have nothing (earlier : TokenKind) (before : earlier.rank < kind.rank) :
      earlier.length? previous text = none := length?_eq_none (first earlier before)
  have noNote (before : 0 < kind.rank) : annotationLength? previous text = none :=
    nothing .note before
  have noLiteral (before : 1 < kind.rank) : literalLength? text = none := nothing .literal before
  have noName (before : 2 < kind.rank) : backtickedLength? text = none := nothing .name before
  have noBlock (before : 3 < kind.rank) : blockLength? text = none := nothing .block before
  have noLine (before : 4 < kind.rank) : lineLength? text = none := nothing .line before
  unfold Sql.pieceAt
  cases kind with
  | note =>
      have note : annotationLength? previous text = some token.length := found
      simp only [note]
      rfl
  | literal =>
      have literal : literalLength? text = some token.length := found
      simp only [noNote (by decide), literal, Option.some_or]
      rfl
  | name =>
      have name : backtickedLength? text = some token.length := found
      simp only [noNote (by decide), noLiteral (by decide), name, Option.none_or]
      rfl
  | block =>
      have block : blockLength? text = some token.length := found
      simp only [noNote (by decide), noLiteral (by decide), noName (by decide), block,
        Option.none_or, Option.some_or]
      rfl
  | line =>
      have line : lineLength? text = some token.length := found
      simp only [noNote (by decide), noLiteral (by decide), noName (by decide),
        noBlock (by decide), line, Option.none_or]
      rfl
  | character =>
      rcases begins.form with ⟨only, rfl⟩
      simp only [noNote (by decide), noLiteral (by decide), noName (by decide),
        noBlock (by decide), noLine (by decide), Option.none_or]
      rfl

/-! ## The sequence of tokens -/

theorem Form.ne_nil {kind : TokenKind} {token : Text} (form : kind.Form token) : token ≠ [] := by
  rintro rfl
  cases kind with
  | note =>
      rcases form with ⟨word, gap, literal, shape, -, nonempty, -⟩
      have parts := List.append_eq_nil_iff.mp shape.symm
      exact nonempty (List.append_eq_nil_iff.mp parts.1).2
  | literal =>
      rcases form with ⟨quote, content, -, -, shape⟩
      cases shape
  | name =>
      rcases form with ⟨name, shape, -⟩
      cases shape
  | block =>
      rcases form with ⟨inside, shape⟩
      cases shape
  | line =>
      rcases form with ⟨margin, marker, remark, shape, -, known, -⟩
      have parts := List.append_eq_nil_iff.mp shape.symm
      rw [(List.append_eq_nil_iff.mp parts.1).2] at known
      rcases known with known | known <;> cases known
  | character =>
      rcases form with ⟨only, shape⟩
      cases shape

theorem rank_injective {kind other : TokenKind} (same : kind.rank = other.rank) : kind = other := by
  cases kind <;> cases other <;> first | rfl | cases same

theorem exists_begins (previous : Option Char) {text : Text} (nonempty : text ≠ []) :
    ∃ kind token, Begins kind previous text token ∧ kind.First previous text := by
  classical
  rcases List.exists_cons_of_ne_nil nonempty with ⟨only, rest, rfl⟩
  have single : character.Begins previous (only :: rest) [only] :=
    begins_iff.mpr ⟨⟨rest, rfl⟩, rfl⟩
  have some : ∃ rank kind token, rank = kind.rank ∧ Begins kind previous (only :: rest) token :=
    ⟨_, character, [only], rfl, single⟩
  rcases Nat.find_spec some with ⟨kind, token, rank, begins⟩
  refine ⟨kind, token, begins, fun earlier before other beginsOther => ?_⟩
  rw [← rank] at before
  exact Nat.find_min some before ⟨earlier, other, rfl, beginsOther⟩

theorem Begins.unique {previous : Option Char} {text token other : Text}
    {kind otherKind : TokenKind} (begins : kind.Begins previous text token)
    (first : kind.First previous text) (beginsOther : otherKind.Begins previous text other)
    (firstOther : otherKind.First previous text) : kind = otherKind ∧ token = other := by
  have same : kind = otherKind := by
    apply rank_injective
    apply Nat.le_antisymm
    · exact Nat.le_of_not_lt fun before => first otherKind before other beginsOther
    · exact Nat.le_of_not_lt fun before => firstOther kind before token begins
  subst same
  have length := (begins_iff.mp begins).2.symm.trans (begins_iff.mp beginsOther).2
  rw [Option.some.injEq] at length
  exact ⟨rfl, (List.prefix_of_prefix_length_le begins.front beginsOther.front
    length.le).eq_of_length length⟩

end TokenKind

theorem exists_tokenized (previous : Option Char) (text : Text) :
    ∃ tokens, Tokenized previous text tokens := by
  generalize size : text.length = bound
  induction bound using Nat.strong_induction_on generalizing text previous with
  | h bound induction =>
      by_cases nonempty : text = []
      · exact ⟨[], nonempty ▸ .nil⟩
      · rcases TokenKind.exists_begins previous nonempty with ⟨kind, token, begins, first⟩
        rcases begins.front with ⟨rest, shape⟩
        have positive := List.length_pos_iff.mpr begins.form.ne_nil
        have shorter : rest.length < bound := by
          rw [← size, ← shape, List.length_append]
          omega
        rcases induction _ shorter token.getLast? rest rfl with ⟨tokens, later⟩
        exact ⟨(kind, token) :: tokens, .cons shape.symm begins first later⟩

namespace Tokenized

variable {previous : Option Char} {text : Text} {tokens : List (TokenKind × Text)}

theorem unique (tokenized : Tokenized previous text tokens) {others : List (TokenKind × Text)}
    (other : Tokenized previous text others) : others = tokens := by
  induction tokenized generalizing others with
  | nil =>
      cases other with
      | nil => rfl
      | cons shape begins =>
          exact absurd (List.append_eq_nil_iff.mp shape.symm).1 begins.form.ne_nil
  | cons shape begins first _ induction =>
      cases other with
      | nil => exact absurd (List.append_eq_nil_iff.mp shape.symm).1 begins.form.ne_nil
      | cons shapeOther beginsOther firstOther later =>
          rcases begins.unique first beginsOther firstOther with ⟨rfl, rfl⟩
          rw [shape] at shapeOther
          rw [← List.append_cancel_left shapeOther] at later
          rw [induction later]

theorem form (tokenized : Tokenized previous text tokens) :
    ∀ token ∈ tokens, token.1.Form token.2 := by
  induction tokenized with
  | nil => simp
  | cons _ begins _ _ induction => exact List.forall_mem_cons.mpr ⟨begins.form, induction⟩

/-- Nothing of a text is lost between its tokens. -/
theorem written_eq (tokenized : Tokenized previous text tokens) : written tokens = text := by
  induction tokenized with
  | nil => rfl
  | cons shape _ _ _ induction =>
      rw [shape]
      exact congrArg _ induction

theorem stripFrom_eq (tokenized : Tokenized previous text tokens) :
    stripFrom previous 0 true text = uncommented tokens := by
  induction tokenized with
  | nil => rfl
  | @cons previous text token rest kind tokens shape begins first _ induction =>
      have piece := begins.pieceAt first
      have nonempty := begins.form.ne_nil
      have last : token.getLast?.or previous = token.getLast? := by
        cases token with
        | nil => exact absurd rfl nonempty
        | cons head tail => rw [List.getLast?_cons, Option.some_or]
      rw [shape] at piece ⊢
      rw [stripFrom_pieceAt nonempty piece, last, induction]
      cases comment : kind.isComment <;> simp [uncommented, written, comment]

end Tokenized

/-! ## What is removed -/

theorem uncommented_append (before after : List (TokenKind × Text)) :
    uncommented (before ++ after) = uncommented before ++ uncommented after := by
  simp [uncommented, written]

/-- Kinds whose tokens may reach over the end of a line and are removed. -/
def TokenKind.spansLines : TokenKind → Bool
  | note | block => true
  | literal | name | line | character => false

theorem TokenKind.filter_line {token : Text} (form : line.Form token) :
    token.filter isLineEnd = [] := by
  rcases form with ⟨margin, marker, remark, rfl, blank, known, inside⟩
  rw [List.filter_eq_nil_iff]
  intro character member
  rw [Bool.not_eq_true, isLineEnd_eq_false_iff]
  rcases List.mem_append.mp member with member | last
  · rcases List.mem_append.mp member with first | second
    · rcases blank character first with rfl | rfl <;> decide
    · rcases known with rfl | rfl
      · rw [List.mem_singleton.mp second]
        decide
      · simp only [List.mem_cons, List.not_mem_nil, or_false, or_self] at second
        rw [second]
        decide
  · exact inside character last

theorem filter_uncommented {tokens : List (TokenKind × Text)}
    (form : ∀ token ∈ tokens, token.1.Form token.2) :
    (uncommented tokens).filter isLineEnd =
      (written (tokens.filter fun token => !token.1.spansLines)).filter isLineEnd := by
  induction tokens with
  | nil => rfl
  | cons token tokens induction =>
      rw [List.forall_mem_cons] at form
      have later := induction form.2
      rcases token with ⟨kind, token⟩
      rw [uncommented] at later ⊢
      cases kind with
      | line =>
          have nothing := TokenKind.filter_line form.1
          simpa [written, TokenKind.isComment, TokenKind.spansLines, nothing] using later
      | note | block | literal | name | character =>
          simpa [written, TokenKind.isComment, TokenKind.spansLines] using later

/-- What is left of a text are its tokens that are no comments, in their order and as they are.
Line ends are lost within notes and block comments only, and a text without comments is
left as it is. -/
theorem comments_are_removed_exactly (text : Text) :
    ∃ tokens, Tokenized none text tokens ∧
      (∀ others, Tokenized none text others → others = tokens) ∧
      written tokens = text ∧ stripComments text = uncommented tokens ∧
      (∀ before kind token after, tokens = before ++ (kind, token) :: after →
        kind.isComment = false →
          stripComments text = uncommented before ++ token ++ uncommented after) ∧
      (stripComments text).filter isLineEnd =
        (written (tokens.filter fun token => !token.1.spansLines)).filter isLineEnd ∧
      ((∀ token ∈ tokens, token.1.isComment = false) → stripComments text = text) := by
  rcases exists_tokenized none text with ⟨tokens, tokenized⟩
  have stripped : stripComments text = uncommented tokens := tokenized.stripFrom_eq
  refine ⟨tokens, tokenized, fun _ => tokenized.unique, tokenized.written_eq, stripped, ?_, ?_, ?_⟩
  · rintro before kind token after rfl kept
    rw [stripped, uncommented_append, List.append_assoc]
    simp [uncommented, written, kept]
  · rw [stripped, filter_uncommented tokenized.form]
  · intro kept
    have all : (tokens.filter fun token => !token.1.isComment) = tokens := by
      rw [List.filter_eq_self]
      intro token member
      rw [kept token member]
      rfl
    rw [stripped, uncommented, all, tokenized.written_eq]

/-- A block comment takes the line ends in it along. -/
theorem line_end_in_comment_is_removed :
    (stripComments "/* multi\n line */ `b` INT").filter isLineEnd = [] ∧
      ("/* multi\n line */ `b` INT".toList).filter isLineEnd = ['\n'] := by
  decide

end Sql

end SchemaSeed
