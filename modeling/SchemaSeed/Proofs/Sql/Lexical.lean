import SchemaSeed.Proofs.Sql.Behind
import SchemaSeed.Proofs.Sql.Names
import SchemaSeed.Sql.Comment

/-! Text that ends outside of quotes and outside of comments.  It is made of plain
characters, of literals and names that are complete, and of comments that are complete. -/

namespace SchemaSeed

namespace Sql

/-! ## The content of a literal -/

/-- Content that leaves the literal around it complete: a quote stands in it doubled or
behind a backslash only. -/
inductive Complete (quote : Char) : Text → Prop
  | nil : Complete quote []
  | plain {character : Char} {rest : Text} (different : character ≠ quote)
      (noEscape : character ≠ '\\') (later : Complete quote rest) :
      Complete quote (character :: rest)
  | escaped {character : Char} {rest : Text} (later : Complete quote rest) :
      Complete quote ('\\' :: character :: rest)
  | doubled {rest : Text} (later : Complete quote rest) : Complete quote (quote :: quote :: rest)

namespace Complete

variable {quote : Char} {content : Text}

theorem append (complete : Complete quote content) {second : Text}
    (later : Complete quote second) : Complete quote (content ++ second) := by
  induction complete with
  | nil => exact later
  | plain different noEscape _ induction => exact .plain different noEscape induction
  | escaped _ induction => exact .escaped induction
  | doubled _ induction => exact .doubled induction

theorem of_plain (plain : ∀ character ∈ content, character ≠ quote ∧ character ≠ '\\') :
    Complete quote content := by
  induction content with
  | nil => exact .nil
  | cons character content induction =>
      rw [List.forall_mem_cons] at plain
      exact .plain plain.1.1 plain.1.2 (induction plain.2)

theorem closing? (complete : Complete quote content) (noEscape : quote ≠ '\\') {rest : Text}
    (single : rest.head? ≠ some quote) :
    Sql.closing? quote (content ++ quote :: rest) = some (content.length + 1) := by
  induction complete with
  | nil => exact closing?_single noEscape single
  | plain different noBackslash _ induction =>
      rw [List.cons_append, closing?_ordinary different noBackslash, induction]
      rfl
  | escaped _ induction =>
      rw [List.cons_append, List.cons_append, closing?_escaped, induction]
      rfl
  | doubled _ induction =>
      rw [List.cons_append, List.cons_append, closing?_doubled noEscape, induction]
      rfl

theorem literalLength? (complete : Complete quote content) (opens : quote = '\'' ∨ quote = '"')
    {rest : Text} (single : rest.head? ≠ some quote) :
    Sql.literalLength? (quote :: content ++ quote :: rest) = some (content.length + 2) := by
  have noEscape : quote ≠ '\\' := by rcases opens with rfl | rfl <;> decide
  rw [List.cons_append, Sql.literalLength?, if_pos opens, complete.closing? noEscape single]
  rfl

theorem behindLiteral? (complete : Complete quote content) (opens : quote = '\'' ∨ quote = '"')
    {rest : Text} (single : rest.head? ≠ some quote) :
    Sql.behindLiteral? (quote :: content ++ quote :: rest) = some rest := by
  rw [behindLiteral?_eq, complete.literalLength? opens single]
  simp

/-- What stands behind a literal does not depend on its content, even if the literal goes on
behind its last quote. -/
theorem behindLiteral?_eq (complete : Complete quote content)
    (opens : quote = '\'' ∨ quote = '"') (rest : Text) :
    Sql.behindLiteral? (quote :: content ++ quote :: rest) =
      some ((behindQuote? quote (quote :: rest)).getD []) := by
  have noEscape : quote ≠ '\\' := by rcases opens with rfl | rfl <;> decide
  have closes : ∃ behind, behindQuote? quote (quote :: rest) = some behind := by
    by_cases doubled : rest.head? = some quote
    · rcases List.head?_eq_some_iff.mp doubled with ⟨more, rfl⟩
      rw [behindQuote?_doubled noEscape]
      cases behindQuote? quote more <;> exact ⟨_, rfl⟩
    · exact ⟨rest, behindQuote?_single noEscape doubled⟩
  rcases closes with ⟨behind, closed⟩
  rw [List.cons_append, Sql.behindLiteral?, if_pos opens, closed, Option.getD_some]
  induction complete with
  | nil => exact closed
  | plain different noBackslash _ induction =>
      rw [List.cons_append, behindQuote?_ordinary different noBackslash, induction]
  | escaped _ induction => rw [List.cons_append, List.cons_append, behindQuote?_escaped, induction]
  | doubled _ induction =>
      rw [List.cons_append, List.cons_append, behindQuote?_doubled noEscape, induction,
        Option.some_or]

/-- A mask does not depend on the content of a literal. -/
theorem mask_eq (complete : Complete quote content) {other : Text}
    (completeOther : Complete quote other) (opens : quote = '\'' ∨ quote = '"') (rest : Text) :
    mask (quote :: content ++ quote :: rest) = mask (quote :: other ++ quote :: rest) := by
  rw [mask_literal (complete.behindLiteral?_eq opens rest),
    mask_literal (completeOther.behindLiteral?_eq opens rest)]

end Complete

/-! ## Lexical text -/

def opensBlock : Text → Bool
  | '/' :: '*' :: _ => true
  | _ => false

/-- Whether a comment starts here. -/
def opensComment (text : Text) : Bool :=
  opensBlock text || opensLine text

/-- Text that ends outside of quotes and, if it may hold comments, outside of those.  All that
stands between backticks in it is admitted. -/
inductive Lexical (commented : Bool) (admits : Text → Prop) : Text → Prop
  | nil : Lexical commented admits []
  | plain {character : Char} {rest : Text} (unquoted : isQuote character = false)
      (code : commented = true → opensComment (character :: rest) = false)
      (later : Lexical commented admits rest) : Lexical commented admits (character :: rest)
  | literal {quote : Char} {content rest : Text} (opens : quote = '\'' ∨ quote = '"')
      (complete : Complete quote content) (single : rest.head? ≠ some quote)
      (later : Lexical commented admits rest) :
      Lexical commented admits (quote :: content ++ quote :: rest)
  | name {name rest : Text} (inside : ∀ character ∈ name, character ≠ backtick)
      (admitted : admits name) (later : Lexical commented admits rest) :
      Lexical commented admits (backtick :: name ++ backtick :: rest)
  | block {comment rest : Text} (comments : commented = true)
      (whole : blockLength? comment = some comment.length)
      (later : Lexical commented admits rest) : Lexical commented admits (comment ++ rest)
  | line {comment rest : Text} (comments : commented = true) (opens : opensLine comment = true)
      (inside : ∀ character ∈ comment, isLineEnd character = false)
      (ended : ∃ character, rest.head? = some character ∧ isLineEnd character = true)
      (later : Lexical commented admits rest) : Lexical commented admits (comment ++ rest)

/-- What a name may be made of for its end to be the same to all that reads it. -/
def Unescaped (name : Text) : Prop :=
  ∀ character ∈ name, character ≠ '\'' ∧ character ≠ '"' ∧ character ≠ '\\'

theorem IsName.unescaped {name : Text} (proper : IsName name) : Unescaped name :=
  fun character member =>
    have known := proper.2 character member
    ⟨ne_of_isNameCharacter known (by decide), ne_of_isNameCharacter known (by decide),
      ne_of_isNameCharacter known (by decide)⟩

theorem isQuote_of_opens {quote : Char} (opens : quote = '\'' ∨ quote = '"') :
    isQuote quote = true := by
  rcases opens with rfl | rfl <;> rfl

theorem head?_append_ne {quote : Char} {right front behind : Text}
    (noDouble : (front ++ [quote] ++ behind).getLast? = some quote → right.head? ≠ some quote)
    (single : behind.head? ≠ some quote) : (behind ++ right).head? ≠ some quote := by
  cases behind with
  | nil => exact noDouble (by simp)
  | cons => exact single

theorem blockLength?_eq_some {comment : Text} {length : Nat}
    (found : blockLength? comment = some length) : ∃ inside, comment = '/' :: '*' :: inside := by
  unfold blockLength? at found
  split at found
  · exact ⟨_, rfl⟩
  · cases found

theorem opensLine_cases {text : Text} (opens : opensLine text = true) :
    (∃ rest, text = '#' :: rest) ∨ ∃ rest, text = '-' :: '-' :: rest := by
  unfold opensLine at opens
  split at opens
  · exact .inl ⟨_, rfl⟩
  · exact .inr ⟨_, rfl⟩
  · cases opens

theorem opensLine_append {text : Text} (opens : opensLine text = true) (rest : Text) :
    opensLine (text ++ rest) = true := by
  rcases opensLine_cases opens with ⟨more, rfl⟩ | ⟨more, rfl⟩ <;> rfl

namespace Lexical

variable {commented : Bool} {admits : Text → Prop} {text : Text}

theorem mono {others : Text → Prop} (implies : ∀ name, admits name → others name)
    (lexical : Lexical commented admits text) : Lexical commented others text := by
  induction lexical with
  | nil => exact .nil
  | plain unquoted code _ induction => exact .plain unquoted code induction
  | literal opens complete single _ induction => exact .literal opens complete single induction
  | name inside admitted _ induction => exact .name inside (implies _ admitted) induction
  | block comments whole _ induction => exact .block comments whole induction
  | line comments opens inside ended _ induction =>
      exact .line comments opens inside ended induction

/-- Behind a plain character a lexical text goes on. -/
theorem tail {character : Char} {rest : Text}
    (lexical : Lexical commented admits (character :: rest))
    (unquoted : isQuote character = false)
    (code : commented = true → opensComment (character :: rest) = false) :
    Lexical commented admits rest := by
  generalize shape : character :: rest = text at lexical
  cases lexical with
  | nil => cases shape
  | plain _ _ later =>
      cases shape
      exact later
  | literal opens =>
      rw [List.cons_append] at shape
      cases shape
      rw [isQuote_of_opens opens] at unquoted
      cases unquoted
  | name =>
      rw [List.cons_append] at shape
      cases shape
      cases unquoted
  | block comments whole =>
      rcases blockLength?_eq_some whole with ⟨inside, rfl⟩
      rw [shape] at code
      cases code comments
  | line comments opens =>
      have opened := code comments
      rw [shape, opensComment, opensLine_append opens, Bool.or_true] at opened
      cases opened

theorem behind_literal {quote : Char} {rest : Text} (opens : quote = '\'' ∨ quote = '"')
    (lexical : Lexical commented admits (quote :: rest)) :
    ∃ content behind, rest = content ++ quote :: behind ∧ Complete quote content ∧
      behind.head? ≠ some quote ∧ Lexical commented admits behind := by
  have quoted := isQuote_of_opens opens
  generalize shape : quote :: rest = text at lexical
  cases lexical with
  | nil => cases shape
  | plain unquoted =>
      cases shape
      rw [quoted] at unquoted
      cases unquoted
  | literal _ complete single later =>
      rw [List.cons_append] at shape
      cases shape
      exact ⟨_, _, rfl, complete, single, later⟩
  | name =>
      rw [List.cons_append] at shape
      cases shape
      rcases opens with opens | opens <;> exact absurd opens (by decide)
  | block _ whole =>
      rcases blockLength?_eq_some whole with ⟨inside, rfl⟩
      cases shape
      cases quoted
  | line _ starts =>
      rcases opensLine_cases starts with ⟨more, rfl⟩ | ⟨more, rfl⟩ <;>
        (cases shape; cases quoted)

theorem behind_name {rest : Text} (lexical : Lexical commented admits (backtick :: rest)) :
    ∃ name behind, rest = name ++ backtick :: behind ∧
      (∀ character ∈ name, character ≠ backtick) ∧ admits name ∧
      Lexical commented admits behind := by
  generalize shape : backtick :: rest = text at lexical
  cases lexical with
  | nil => cases shape
  | plain unquoted =>
      cases shape
      cases unquoted
  | literal opens =>
      rw [List.cons_append] at shape
      cases shape
      rcases opens with opens | opens <;> exact absurd opens (by decide)
  | name inside admitted later =>
      rw [List.cons_append] at shape
      cases shape
      exact ⟨_, _, rfl, inside, admitted, later⟩
  | block _ whole =>
      rcases blockLength?_eq_some whole with ⟨inside, rfl⟩
      exact absurd (List.cons_eq_cons.mp shape).1 (by decide)
  | line _ starts =>
      rcases opensLine_cases starts with ⟨more, rfl⟩ | ⟨more, rfl⟩ <;>
        exact absurd (List.cons_eq_cons.mp shape).1 (by decide)

/-- A name between backticks ends where the first backtick closes it. -/
theorem behind_of_name {name rest : Text} (inside : ∀ character ∈ name, character ≠ backtick)
    (lexical : Lexical commented admits (backtick :: name ++ backtick :: rest)) :
    Lexical commented admits rest := by
  rcases lexical.behind_name with ⟨other, more, same, insideOther, -, later⟩
  rwa [(backtick_unique inside insideOther same).2]

theorem behind_line (lexical : Lexical true admits text) (opens : opensLine text = true) :
    ∃ comment behind, text = comment ++ behind ∧ opensLine comment = true ∧
      (∀ character ∈ comment, isLineEnd character = false) ∧
      (∃ character, behind.head? = some character ∧ isLineEnd character = true) ∧
      Lexical true admits behind := by
  have different {other : Char} {rest : Text} (shape : text = other :: rest)
      (foreign : other ≠ '#' ∧ other ≠ '-') : False := by
    rcases opensLine_cases opens with ⟨more, same⟩ | ⟨more, same⟩
    · exact foreign.1 (List.cons_eq_cons.mp (shape.symm.trans same)).1
    · exact foreign.2 (List.cons_eq_cons.mp (shape.symm.trans same)).1
  cases lexical with
  | nil => cases opens
  | plain _ code =>
      have closed := code rfl
      rw [opensComment, opens, Bool.or_true] at closed
      cases closed
  | literal quoted =>
      refine (different List.cons_append ?_).elim
      rcases quoted with rfl | rfl <;> decide
  | name => exact (different List.cons_append (by decide)).elim
  | block _ whole =>
      rcases blockLength?_eq_some whole with ⟨inside, rfl⟩
      exact (different List.cons_append (by decide)).elim
  | line _ starts inside ended later => exact ⟨_, _, rfl, starts, inside, ended, later⟩

end Lexical

theorem opensComment_eq_false {character : Char}
    (plain : character ≠ '/' ∧ character ≠ '#' ∧ character ≠ '-') (rest : Text) :
    opensComment (character :: rest) = false := by
  rw [opensComment, Bool.or_eq_false_iff]
  constructor
  · unfold opensBlock
    split
    · rename_i shape
      cases shape
      exact absurd rfl plain.1
    · rfl
  · cases opens : opensLine (character :: rest) with
    | false => rfl
    | true =>
        rcases opensLine_cases opens with ⟨more, shape⟩ | ⟨more, shape⟩ <;> cases shape
        · exact absurd rfl plain.2.1
        · exact absurd rfl plain.2.2

theorem Lexical.tail_of_plain {commented : Bool} {admits : Text → Prop} {part rest : Text}
    (lexical : Lexical commented admits (part ++ rest))
    (plain : ∀ character ∈ part, isQuote character = false ∧ character ≠ '/' ∧
      character ≠ '#' ∧ character ≠ '-') : Lexical commented admits rest := by
  induction part with
  | nil => exact lexical
  | cons character part induction =>
      rw [List.forall_mem_cons] at plain
      exact induction (lexical.tail plain.1.1 fun _ => opensComment_eq_false plain.1.2 _) plain.2

/-! ## Reading lexical text -/

/-- Where a text stands that is read character by character. -/
inductive Standing where
  | plain
  | literal (quote : Char)
  | escaped (quote : Char)
  | name
  | opening
  | block
  | closing
  | line
deriving DecidableEq

/-- Whether a text, read from where it stands, ends outside of quotes and comments and has
names between its backticks. -/
def lexes : Standing → Text → Bool
  | standing, [] => standing == .plain
  | .plain, character :: rest =>
      if opensBlock (character :: rest) then lexes .opening rest
      else if opensLine (character :: rest) then lexes .line rest
      else if character = '\'' ∨ character = '"' then lexes (.literal character) rest
      else if character = backtick then rest.head? != some backtick && lexes .name rest
      else lexes .plain rest
  | .literal quote, character :: rest =>
      if character = '\\' ∨ character = quote ∧ rest.head? = some quote then
        lexes (.escaped quote) rest
      else if character = quote then lexes .plain rest
      else lexes (.literal quote) rest
  | .escaped quote, _ :: rest => lexes (.literal quote) rest
  | .name, character :: rest =>
      if character = backtick then lexes .plain rest
      else isNameCharacter character && lexes .name rest
  | .opening, _ :: rest => lexes .block rest
  | .block, character :: rest =>
      if character = '*' ∧ rest.head? = some '/' then lexes .closing rest else lexes .block rest
  | .closing, _ :: rest => lexes .plain rest
  | .line, character :: rest =>
      if isLineEnd character then lexes .plain rest else lexes .line rest

/-- What is known of a text that ends outside of quotes and comments. -/
def Standing.Reads : Standing → Text → Prop
  | .plain, text => Lexical true IsName text
  | .literal quote, text => ∃ content rest, text = content ++ quote :: rest ∧
      Complete quote content ∧ rest.head? ≠ some quote ∧ Lexical true IsName rest
  | .escaped quote, text => ∃ character content rest, text = character :: content ++ quote :: rest ∧
      Complete quote content ∧ rest.head? ≠ some quote ∧ Lexical true IsName rest
  | .name, text => ∃ name rest, text = name ++ backtick :: rest ∧
      (∀ character ∈ name, isNameCharacter character = true) ∧ Lexical true IsName rest
  | .opening, text => ∃ character comment rest, text = character :: comment ++ rest ∧
      (∀ passed, blockEnd? passed comment = some (passed + comment.length)) ∧
      Lexical true IsName rest
  | .block, text => ∃ comment rest, text = comment ++ rest ∧
      (∀ passed, blockEnd? passed comment = some (passed + comment.length)) ∧
      Lexical true IsName rest
  | .closing, text => ∃ character rest, text = character :: rest ∧ Lexical true IsName rest
  | .line, text => ∃ comment rest, text = comment ++ rest ∧
      (∀ character ∈ comment, isLineEnd character = false) ∧
      (∃ character, rest.head? = some character ∧ isLineEnd character = true) ∧
      Lexical true IsName rest

theorem blockEnd?_cons {character : Char} {rest : Text}
    (inside : ¬ (character = '*' ∧ rest.head? = some '/')) (passed : Nat) :
    blockEnd? passed (character :: rest) = blockEnd? (passed + 1) rest := by
  rw [blockEnd?]
  rintro more rfl rfl
  exact inside ⟨rfl, rfl⟩

theorem lexical_of_lineEnd {character : Char} {rest : Text} (ends : isLineEnd character = true)
    (later : Lexical true IsName rest) : Lexical true IsName (character :: rest) := by
  simp only [isLineEnd, Bool.or_eq_true, beq_iff_eq] at ends
  refine .plain ?_ (fun _ => opensComment_eq_false ?_ rest) later <;>
    rcases ends with rfl | rfl <;> decide

/-! Each reading of a first character is put in front of what was read of the text behind it. -/

section Steps

variable {character : Char} {rest : Text}

theorem lexical_of_opensBlock (opens : opensBlock (character :: rest) = true)
    (reads : Standing.opening.Reads rest) : Lexical true IsName (character :: rest) := by
  rcases reads with ⟨star, comment, behind, rfl, ends, lexical⟩
  unfold opensBlock at opens
  split at opens
  · rename_i shape
    cases shape
    have whole : blockLength? ('/' :: '*' :: comment) =
        some ('/' :: '*' :: comment).length := by
      rw [blockLength?, ends, List.length_cons, List.length_cons, Nat.add_comm]
    exact .block rfl whole lexical
  · cases opens

theorem lexical_of_opensLine (opens : opensLine (character :: rest) = true)
    (reads : Standing.line.Reads rest) : Lexical true IsName (character :: rest) := by
  rcases reads with ⟨comment, behind, rfl, inside, ended, lexical⟩
  have starts : opensLine (character :: comment) = true ∧ isLineEnd character = false := by
    rcases opensLine_cases opens with ⟨rest, shape⟩ | ⟨rest, shape⟩
    · cases shape
      exact ⟨rfl, rfl⟩
    · rcases List.cons_eq_cons.mp shape with ⟨rfl, same⟩
      cases comment with
      | nil =>
          rcases ended with ⟨last, head, ends⟩
          rw [show behind = '-' :: rest from same] at head
          cases head
          cases ends
      | cons next comment =>
          cases same
          exact ⟨rfl, rfl⟩
  exact .line rfl starts.1 (List.forall_mem_cons.mpr ⟨starts.2, inside⟩) ended lexical

theorem lexical_of_opensName (named : rest.head? ≠ some backtick)
    (reads : Standing.name.Reads rest) : Lexical true IsName (backtick :: rest) := by
  rcases reads with ⟨name, behind, rfl, known, lexical⟩
  have nonempty : name ≠ [] := by
    rintro rfl
    exact named rfl
  exact .name (fun character member => ne_of_isNameCharacter (known character member)
    (by decide)) ⟨nonempty, known⟩ lexical

variable (later : ∀ standing : Standing, lexes standing rest = true → standing.Reads rest)

include later

/-- A first character outside of quotes and comments. -/
theorem reads_of_lexes_plain (read : lexes .plain (character :: rest) = true) :
    Standing.plain.Reads (character :: rest) := by
  simp only [lexes] at read
  split at read
  · rename_i opens
    exact lexical_of_opensBlock opens (later .opening read)
  · rename_i noBlock
    split at read
    · rename_i opens
      exact lexical_of_opensLine opens (later .line read)
    · rename_i noLine
      split at read
      · rename_i opens
        rcases later (.literal character) read with
          ⟨content, behind, rfl, complete, single, lexical⟩
        exact .literal opens complete single lexical
      · rename_i noLiteral
        split at read
        · subst character
          rw [Bool.and_eq_true, bne_iff_ne] at read
          exact lexical_of_opensName read.1 (later .name read.2)
        · rename_i noName
          rw [not_or] at noLiteral
          refine .plain ?_ (fun _ => ?_) (later .plain read)
          · simp [isQuote, noLiteral, noName]
          · simp [opensComment, noBlock, noLine]

theorem reads_of_lexes_literal {quote : Char}
    (read : lexes (.literal quote) (character :: rest) = true) :
    (Standing.literal quote).Reads (character :: rest) := by
  simp only [lexes] at read
  split at read
  · rename_i taken
    rcases later (.escaped quote) read with ⟨next, content, behind, rfl, complete, single, lexical⟩
    refine ⟨character :: next :: content, behind, rfl, ?_, single, lexical⟩
    rcases taken with rfl | ⟨rfl, doubled⟩
    · exact .escaped complete
    · cases doubled
      exact .doubled complete
  · rename_i untaken
    rw [not_or] at untaken
    split at read
    · subst character
      exact ⟨[], rest, rfl, .nil, fun doubled => untaken.2 ⟨rfl, doubled⟩, later .plain read⟩
    · rcases later (.literal quote) read with ⟨content, behind, rfl, complete, single, lexical⟩
      exact ⟨character :: content, behind, rfl, .plain ‹_› untaken.1 complete, single, lexical⟩

theorem reads_of_lexes_name (read : lexes .name (character :: rest) = true) :
    Standing.name.Reads (character :: rest) := by
  simp only [lexes] at read
  split at read
  · subst character
    exact ⟨[], rest, rfl, by simp, later .plain read⟩
  · rw [Bool.and_eq_true] at read
    rcases later .name read.2 with ⟨name, behind, rfl, known, lexical⟩
    exact ⟨character :: name, behind, rfl, List.forall_mem_cons.mpr ⟨read.1, known⟩, lexical⟩

theorem reads_of_lexes_block (read : lexes .block (character :: rest) = true) :
    Standing.block.Reads (character :: rest) := by
  simp only [lexes] at read
  split at read
  · rename_i ends
    rcases later .closing read with ⟨last, behind, rfl, lexical⟩
    rcases ends with ⟨rfl, slash⟩
    cases slash
    exact ⟨['*', '/'], behind, rfl, fun passed => rfl, lexical⟩
  · rename_i inside
    rcases later .block read with ⟨comment, behind, rfl, ends, lexical⟩
    refine ⟨character :: comment, behind, rfl, fun passed => ?_, lexical⟩
    rw [blockEnd?_cons, ends, List.length_cons, Nat.add_assoc, Nat.add_comm 1]
    rintro ⟨rfl, slash⟩
    apply inside
    refine ⟨rfl, ?_⟩
    rw [List.head?_append, slash]
    rfl

theorem reads_of_lexes_line (read : lexes .line (character :: rest) = true) :
    Standing.line.Reads (character :: rest) := by
  simp only [lexes] at read
  split at read
  · rename_i ends
    exact ⟨[], character :: rest, rfl, by simp, ⟨character, rfl, ends⟩,
      lexical_of_lineEnd ends (later .plain read)⟩
  · rename_i inside
    rcases later .line read with ⟨comment, behind, rfl, insideComment, ended, lexical⟩
    exact ⟨character :: comment, behind, rfl,
      List.forall_mem_cons.mpr ⟨by simpa using inside, insideComment⟩, ended, lexical⟩

end Steps

/-- What is read character by character is lexical. -/
theorem reads_of_lexes {standing : Standing} {text : Text} (read : lexes standing text = true) :
    standing.Reads text := by
  induction text generalizing standing with
  | nil =>
      simp only [lexes, beq_iff_eq] at read
      subst read
      exact .nil
  | cons character rest induction =>
      have later (standing : Standing) (read : lexes standing rest = true) :
          standing.Reads rest := induction read
      cases standing with
      | plain => exact reads_of_lexes_plain later read
      | literal quote => exact reads_of_lexes_literal later read
      | escaped quote =>
          rcases induction read with ⟨content, behind, rfl, complete, single, lexical⟩
          exact ⟨character, content, behind, rfl, complete, single, lexical⟩
      | name => exact reads_of_lexes_name later read
      | opening =>
          rcases induction read with ⟨comment, behind, rfl, ends, lexical⟩
          exact ⟨character, comment, behind, rfl, ends, lexical⟩
      | block => exact reads_of_lexes_block later read
      | closing => exact ⟨character, rest, rfl, induction read⟩
      | line => exact reads_of_lexes_line later read

end Sql

end SchemaSeed
