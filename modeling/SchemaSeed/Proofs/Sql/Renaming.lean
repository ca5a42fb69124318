import SchemaSeed.Proofs.Sql.Behind
import SchemaSeed.Proofs.Sql.Matching
import SchemaSeed.Proofs.Sql.Names

/-! Other names for the quoted names of a text.  Read from left to right, a text is a
sequence of quoted names and single characters; newName replaces the names.  Two texts of
which one is the other renamed are related lexeme by lexeme, and this relation survives
everything that searches and masks do with them, since a backtick bars all patterns and a
name holds neither blanks nor quotes. -/

namespace SchemaSeed

namespace Sql

/-! ## Lexemes -/

inductive Lexeme where
  | name (text : Text)
  | single (character : Char)
deriving Repr, DecidableEq

namespace Lexeme

def name? : Lexeme → Option Text
  | .name text => some text
  | .single _ => none

/-- The lexeme as it is written, under another name if it is one. -/
def written (newName : Text → Text) : Lexeme → Text
  | .name text => backtick :: newName text ++ [backtick]
  | .single character => [character]

end Lexeme

/-- The lexemes of a text of which the first `skipped` characters belong to a name that was
read already. -/
def lexemesFrom (skipped : Nat) : Text → List Lexeme
  | [] => []
  | character :: rest =>
      match skipped with
      | remaining + 1 => lexemesFrom remaining rest
      | 0 =>
          match quotedName? (character :: rest) with
          | some (name, _) => .name name :: lexemesFrom (name.length + 1) rest
          | none => .single character :: lexemesFrom 0 rest

def lexemes (text : Text) : List Lexeme :=
  lexemesFrom 0 text

def quotedNames (text : Text) : List Text :=
  (lexemes text).filterMap Lexeme.name?

/-- The text with another name for every quoted one. -/
def rename (newName : Text → Text) (text : Text) : Text :=
  (lexemes text).flatMap (Lexeme.written newName)

theorem lexemesFrom_drop (skipped : Nat) (text : Text) :
    lexemesFrom skipped text = lexemes (text.drop skipped) := by
  induction text generalizing skipped with
  | nil => cases skipped <;> rfl
  | cons character text induction =>
      cases skipped with
      | zero => rfl
      | succ remaining => exact induction remaining

theorem lexemes_name {name : Text} (proper : IsName name) (rest : Text) :
    lexemes (backtick :: name ++ backtick :: rest) = .name name :: lexemes rest := by
  have quoted := quotedName?_append proper.1 proper.2 rest
  have behind : (name ++ backtick :: rest).drop (name.length + 1) = rest := by simp
  rw [List.cons_append] at quoted ⊢
  simp only [lexemes, lexemesFrom, quoted]
  rw [lexemesFrom_drop, behind, lexemes]

theorem lexemes_single {character : Char} {rest : Text}
    (unnamed : quotedName? (character :: rest) = none) :
    lexemes (character :: rest) = .single character :: lexemes rest := by
  simp only [lexemes, lexemesFrom, unnamed]

theorem length_of_quotedName? {text name rest : Text}
    (found : quotedName? text = some (name, rest)) : rest.length < text.length := by
  rw [(quotedName?_eq_some found).2.2]
  simp
  omega

/-- A text is read lexeme by lexeme. -/
theorem lexeme_induction {motive : Text → Prop} (nil : motive [])
    (name : ∀ name rest, IsName name → motive rest → motive (backtick :: name ++ backtick :: rest))
    (single : ∀ character rest, quotedName? (character :: rest) = none → motive rest →
      motive (character :: rest))
    (text : Text) : motive text := by
  generalize size : text.length = bound
  induction bound using Nat.strong_induction_on generalizing text with
  | h bound induction =>
      cases text with
      | nil => exact nil
      | cons character text =>
          cases found : quotedName? (character :: text) with
          | some pair =>
              have shorter := length_of_quotedName? found
              rcases quotedName?_eq_some found with ⟨nonempty, proper, shape⟩
              rw [shape]
              exact name _ _ ⟨nonempty, proper⟩ (induction _ (size ▸ shorter) _ rfl)
          | none => exact single _ _ found (induction _ (size ▸ Nat.lt_succ_self _) _ rfl)

section Equations

variable {name : Text} (proper : IsName name) {character : Char} {rest : Text}
  (unnamed : quotedName? (character :: rest) = none) (newName : Text → Text)

include proper in
theorem quotedNames_name (rest : Text) :
    quotedNames (backtick :: name ++ backtick :: rest) = name :: quotedNames rest := by
  rw [quotedNames, lexemes_name proper]
  rfl

include unnamed in
theorem quotedNames_single : quotedNames (character :: rest) = quotedNames rest := by
  rw [quotedNames, lexemes_single unnamed]
  rfl

include proper in
theorem rename_name (rest : Text) :
    rename newName (backtick :: name ++ backtick :: rest) =
      backtick :: newName name ++ backtick :: rename newName rest := by
  rw [rename, lexemes_name proper]
  simp [Lexeme.written, rename]

include unnamed in
theorem rename_single : rename newName (character :: rest) = character :: rename newName rest := by
  rw [rename, lexemes_single unnamed]
  rfl

end Equations

theorem isName_of_mem_quotedNames {name text : Text} (quoted : name ∈ quotedNames text) :
    IsName name := by
  induction text using lexeme_induction with
  | nil => cases quoted
  | name first rest proper induction =>
      rw [quotedNames_name proper] at quoted
      rcases List.mem_cons.mp quoted with rfl | later
      · exact proper
      · exact induction later
  | single character rest unnamed induction =>
      rw [quotedNames_single unnamed] at quoted
      exact induction quoted

/-- Without backticks there is nothing to rename. -/
theorem rename_of_unquoted {newName : Text → Text} {text : Text}
    (unquoted : ∀ character ∈ text, character ≠ backtick) : rename newName text = text := by
  induction text with
  | nil => rfl
  | cons character text induction =>
      rw [List.forall_mem_cons] at unquoted
      have unnamed : quotedName? (character :: text) = none := by
        simp only [quotedName?, unquoted.1, if_false]
      rw [rename_single unnamed, induction unquoted.2]

/-! ## Renamed text -/

/-- `after` is `before` with other names for the quoted ones, all of which are known. -/
inductive Renamed (known : Text → Prop) (newName : Text → Text) : Text → Text → Prop
  | nil : Renamed known newName [] []
  | name {name before after : Text} (proper : IsName name) (among : known name)
      (image : IsName (newName name)) (later : Renamed known newName before after) :
      Renamed known newName (backtick :: name ++ backtick :: before)
        (backtick :: newName name ++ backtick :: after)
  | single {character : Char} {before after : Text}
      (unnamed : quotedName? (character :: before) = none)
      (later : Renamed known newName before after) :
      Renamed known newName (character :: before) (character :: after)

theorem Renamed.mono {known other : Text → Prop} {newName : Text → Text} {before after : Text}
    (implies : ∀ name, known name → other name) (renamed : Renamed known newName before after) :
    Renamed other newName before after := by
  induction renamed with
  | nil => exact .nil
  | name proper among image _ induction => exact .name proper (implies _ among) image induction
  | single unnamed _ induction => exact .single unnamed induction

theorem renamed_rename {newName : Text → Text} {text : Text}
    (images : ∀ name ∈ quotedNames text, IsName (newName name)) :
    Renamed (· ∈ quotedNames text) newName text (rename newName text) := by
  induction text using lexeme_induction with
  | nil => exact .nil
  | name name rest proper induction =>
      rw [quotedNames_name proper] at images ⊢
      rw [List.forall_mem_cons] at images
      rw [rename_name proper]
      exact .name proper List.mem_cons_self images.1
        ((induction images.2).mono fun _ => List.mem_cons_of_mem name)
  | single character rest unnamed induction =>
      rw [quotedNames_single unnamed] at images ⊢
      rw [rename_single unnamed]
      exact .single unnamed (induction images)

/-! ## Where a name starts -/

theorem isSome_quotedName? {character : Char} {rest : Text} :
    (quotedName? (character :: rest)).isSome = true ↔
      character = backtick ∧ rest.takeWhile isNameCharacter ≠ [] ∧
        (rest.dropWhile isNameCharacter).head? = some backtick := by
  simp only [quotedName?]
  split
  · rename_i opens
    split
    · rename_i first more closing after front back
      rw [front, back]
      split <;> simp_all
    · rename_i incomplete
      simp only [Option.isSome_none, Bool.false_eq_true, opens, true_and, false_iff, not_and]
      intro nonempty closes
      rcases List.exists_cons_of_ne_nil nonempty with ⟨first, more, front⟩
      cases back : rest.dropWhile isNameCharacter with
      | nil => simp [back] at closes
      | cons closing after => exact incomplete first more closing after front back
  · rename_i other
    simp [other]

/-- What is no name stays none when the text goes on differently behind it. -/
theorem quotedName?_eq_none_of_append {left : Text} (right : Text)
    (unnamed : quotedName? (left ++ right) = none) : quotedName? left = none := by
  cases found : quotedName? left with
  | none => rfl
  | some pair =>
      rcases quotedName?_eq_some found with ⟨nonempty, proper, shape⟩
      have longer := quotedName?_append nonempty proper (pair.2 ++ right)
      rw [← List.cons_append, ← List.append_assoc, ← shape, unnamed] at longer
      cases longer

section Renamed

variable {known : Text → Prop} {newName : Text → Text} {before after : Text}

theorem Renamed.head? (renamed : Renamed known newName before after) :
    before.head? = after.head? := by
  cases renamed <;> rfl

theorem Renamed.isEmpty (renamed : Renamed known newName before after) :
    before.isEmpty = after.isEmpty := by
  cases renamed <;> rfl

/-- Reading up to a backtick at the latest gives the same. -/
theorem Renamed.takeWhile (renamed : Renamed known newName before after) (wanted : Char → Bool)
    (stops : wanted backtick = false) :
    before.takeWhile wanted = after.takeWhile wanted ∧
      Renamed known newName (before.dropWhile wanted) (after.dropWhile wanted) := by
  induction renamed with
  | nil => exact ⟨rfl, .nil⟩
  | name proper among image later _ =>
      rw [List.cons_append, List.cons_append]
      simp only [List.takeWhile_cons, List.dropWhile_cons, stops, Bool.false_eq_true, if_false,
        true_and]
      exact .name proper among image later
  | single unnamed later induction =>
      simp only [List.takeWhile_cons, List.dropWhile_cons]
      split
      · exact ⟨congrArg _ induction.1, induction.2⟩
      · exact ⟨rfl, .single unnamed later⟩

theorem Renamed.quotedName? (renamed : Renamed known newName before after) :
    (Sql.quotedName? before = none ∧ Sql.quotedName? after = none) ∨
      ∃ name rest restAfter, known name ∧ Sql.quotedName? before = some (name, rest) ∧
        Sql.quotedName? after = some (newName name, restAfter) ∧
        Renamed known newName rest restAfter := by
  cases renamed with
  | nil => exact .inl ⟨rfl, rfl⟩
  | @name name rest restAfter proper among image later =>
      exact .inr ⟨name, rest, restAfter, among, quotedName?_append proper.1 proper.2 rest,
        quotedName?_append image.1 image.2 restAfter, later⟩
  | single unnamed later =>
      refine .inl ⟨unnamed, ?_⟩
      rcases later.takeWhile isNameCharacter (by decide) with ⟨same, remaining⟩
      rw [← Option.not_isSome_iff_eq_none, isSome_quotedName?] at unnamed ⊢
      rwa [← same, ← remaining.head?]

theorem Renamed.skipBlanks (renamed : Renamed known newName before after) :
    Renamed known newName before.skipBlanks after.skipBlanks :=
  (renamed.takeWhile _ (by decide)).2

/-- The names of a text can be told from others that are known. -/
theorem Renamed.mem_quotedNames (renamed : Renamed known newName before after) :
    Renamed (fun name => known name ∧ name ∈ quotedNames before) newName before after := by
  induction renamed with
  | nil => exact .nil
  | name proper among image _ induction =>
      rw [quotedNames_name proper]
      exact .name proper ⟨among, List.mem_cons_self⟩ image
        (induction.mono fun _ found => ⟨found.1, List.mem_cons_of_mem _ found.2⟩)
  | single unnamed _ induction =>
      rw [quotedNames_single unnamed]
      exact .single unnamed induction

theorem Renamed.eq_rename (renamed : Renamed known newName before after) :
    after = rename newName before := by
  induction renamed with
  | nil => rfl
  | name proper among image _ induction => rw [rename_name proper, induction]
  | single unnamed _ induction => rw [rename_single unnamed, induction]

end Renamed

/-! ## Words and phrases -/

section Matching

variable {known : Text → Prop} {newName : Text → Text}

/-- Whether the matcher finds something, and what follows it, does not depend on names. -/
def Respects (known : Text → Prop) (newName : Text → Text)
    (matcher : Text → Option Text) : Prop :=
  ∀ before after, Renamed known newName before after →
    Option.Rel (Renamed known newName) (matcher before) (matcher after)

theorem Respects.bind {first second : Text → Option Text}
    (respectsFirst : Respects known newName first)
    (respectsSecond : Respects known newName second) :
    Respects known newName fun text => (first text).bind second := by
  intro before after renamed
  have found := respectsFirst before after renamed
  show Option.Rel _ ((first before).bind second) ((first after).bind second)
  generalize first before = left at found
  generalize first after = right at found
  cases found with
  | none => exact .none
  | some rest => exact respectsSecond _ _ rest

theorem respects_word {letters : Text}
    (foreign : ∀ letter ∈ letters, Character.spells letter backtick = false) :
    Respects known newName (word? letters) := by
  intro before after renamed
  induction letters generalizing before after with
  | nil => exact .some renamed
  | cons letter letters induction =>
      rw [List.forall_mem_cons] at foreign
      cases renamed with
      | nil => exact .none
      | name proper among image later =>
          simp only [List.cons_append, word?, foreign.1, Bool.false_eq_true, if_false]
          exact .none
      | single unnamed later =>
          simp only [word?]
          split
          · exact induction foreign.2 _ _ later
          · exact .none

theorem respects_blanks : Respects known newName blanks? := by
  intro before after renamed
  cases renamed with
  | nil => exact .none
  | name proper among image later => exact .none
  | single unnamed later =>
      simp only [blanks?]
      split
      · exact .some later.skipBlanks
      · exact .none

theorem respects_phrase {first second : Text}
    (foreign : ∀ letter ∈ first ++ second, Character.spells letter backtick = false) :
    Respects known newName (phrase? first second) :=
  ((respects_word fun letter member => foreign letter (List.mem_append_left _ member)).bind
    respects_blanks).bind
      (respects_word fun letter member => foreign letter (List.mem_append_right _ member))

/-- A pattern that finds nothing in names finds the same in renamed text. -/
theorem Respects.search? {matcher : Text → Option Text}
    (respects : Respects known newName matcher) (bars : Bars matcher backtick)
    (nothing : matcher [] = none) (silent : ∀ name, IsName name → occurs matcher name = false) :
    Respects known newName (search? matcher) := by
  have skips {name : Text} (proper : IsName name) (rest : Text) :
      Sql.search? matcher (backtick :: name ++ backtick :: rest) = Sql.search? matcher rest := by
    have quiet := silent name proper
    rw [occurs, Option.isSome_eq_false_iff, Option.isNone_iff_eq_none] at quiet
    have opening := search?_bar bars nothing [] (name ++ backtick :: rest)
    rw [List.nil_append] at opening
    rw [List.cons_append, opening, search?_bar bars nothing, quiet]
    rfl
  intro before after renamed
  induction renamed with
  | nil => exact .none
  | name proper among image _ induction =>
      rw [skips proper, skips image]
      exact induction
  | single unnamed later induction =>
      have here := respects _ _ (.single unnamed later)
      simp only [Sql.search?]
      generalize matcher (_ :: _) = left at here
      generalize matcher (_ :: _) = right at here
      cases here with
      | none => exact induction
      | some rest => exact .some rest

/-- The first name stays the first. -/
theorem Renamed.firstName? {before after : Text} (renamed : Renamed known newName before after) :
    (Sql.firstName? before = none ∧ Sql.firstName? after = none) ∨
      ∃ name, known name ∧ Sql.firstName? before = some name ∧
        Sql.firstName? after = some (newName name) := by
  induction renamed with
  | nil => exact .inl ⟨rfl, rfl⟩
  | @name name rest restAfter proper among image _ _ =>
      exact .inr ⟨name, among, @firstName?_append [] _ (by simp) proper.1 proper.2 rest,
        @firstName?_append [] _ (by simp) image.1 image.2 restAfter⟩
  | single unnamed later induction =>
      rcases (Renamed.single unnamed later).quotedName? with
        ⟨-, unnamedAfter⟩ | ⟨name, rest, _, -, found, -⟩
      · simp only [Sql.firstName?, Sql.search?, unnamed, unnamedAfter, Option.none_or]
        exact induction
      · rw [unnamed] at found
        cases found

end Matching

/-! ## Masks -/

section Masks

variable {known : Text → Prop} {newName : Text → Text} {before after : Text}

theorem IsName.ordinary {name : Text} (proper : IsName name) {quote : Char}
    (opens : quote = '\'' ∨ quote = '"') :
    ∀ character ∈ name ++ [backtick], character ≠ quote ∧ character ≠ '\\' := by
  intro character member
  rcases List.mem_append.mp member with inside | last
  · have known := proper.2 character inside
    refine ⟨ne_of_isNameCharacter known ?_, ne_of_isNameCharacter known (by decide)⟩
    rcases opens with rfl | rfl <;> decide
  · rw [List.mem_singleton.mp last]
    rcases opens with rfl | rfl <;> decide

/-- A literal ends in renamed text where it did, escaped and doubled quotes included. -/
theorem Renamed.behindQuote? {quote : Char} (opens : quote = '\'' ∨ quote = '"')
    (renamed : Renamed known newName before after) :
    Option.Rel (Renamed known newName) (Sql.behindQuote? quote before)
      (Sql.behindQuote? quote after) := by
  have noEscape : quote ≠ '\\' := by rcases opens with rfl | rfl <;> decide
  have skips {name : Text} (proper : IsName name) (rest : Text) :
      Sql.behindQuote? quote (name ++ backtick :: rest) = Sql.behindQuote? quote rest := by
    have passed := behindQuote?_append (proper.ordinary opens) rest
    rwa [List.append_assoc, List.singleton_append] at passed
  have plainBacktick : backtick ≠ quote := by rcases opens with rfl | rfl <;> decide
  generalize size : before.length = bound
  induction bound using Nat.strong_induction_on generalizing before after with
  | h bound induction =>
      cases renamed with
      | nil => exact .none
      | @name name rest restAfter proper among image later =>
          rw [List.cons_append, List.cons_append, behindQuote?_ordinary plainBacktick (by decide),
            behindQuote?_ordinary plainBacktick (by decide), skips proper, skips image]
          refine induction _ ?_ later rfl
          simp only [← size, List.length_append, List.length_cons]
          omega
      | @single character rest restAfter unnamed later =>
          have shorter : rest.length < bound := size ▸ Nat.lt_succ_self _
          by_cases escape : character = '\\'
          · subst escape
            cases later with
            | nil => rw [behindQuote?_backslash]; exact .none
            | name proper among image later =>
                rw [List.cons_append, List.cons_append, behindQuote?_escaped,
                  behindQuote?_escaped, skips proper, skips image]
                refine induction _ ?_ later rfl
                simp only [List.length_append, List.length_cons] at shorter
                omega
            | single _ later =>
                rw [behindQuote?_escaped, behindQuote?_escaped]
                exact induction _ (Nat.lt_of_succ_lt shorter) later rfl
          by_cases closes : character = quote
          · subst closes
            by_cases doubled : rest.head? = some character
            · cases later with
              | nil => cases doubled
              | name => exact absurd (Option.some.inj doubled) plainBacktick
              | @single _ more moreAfter unnamedNext later =>
                  cases doubled
                  rw [behindQuote?_doubled noEscape, behindQuote?_doubled noEscape]
                  have further := induction _ (Nat.lt_of_succ_lt shorter) later rfl
                  generalize Sql.behindQuote? character more = left at further
                  generalize Sql.behindQuote? character moreAfter = right at further
                  cases further with
                  | none => exact .some (.single unnamedNext later)
                  | some behind => exact .some behind
            · rw [behindQuote?_single noEscape doubled,
                behindQuote?_single noEscape (later.head? ▸ doubled)]
              exact .some later
          · rw [behindQuote?_ordinary closes escape, behindQuote?_ordinary closes escape]
            exact induction _ shorter later rfl

theorem Renamed.behindLiteral? (renamed : Renamed known newName before after) :
    Option.Rel (Renamed known newName) (Sql.behindLiteral? before)
      (Sql.behindLiteral? after) := by
  cases renamed with
  | nil => exact .none
  | name proper among image later => exact .none
  | single unnamed later =>
      simp only [Sql.behindLiteral?]
      split
      · exact later.behindQuote? ‹_›
      · exact .none

theorem quotedName?_mask_eq_none {character : Char} {rest : Text}
    (unnamed : quotedName? (character :: rest) = none) :
    quotedName? (character :: mask rest) = none := by
  cases found : quotedName? (character :: mask rest) with
  | none => rfl
  | some pair =>
      rcases quotedName?_eq_some found with ⟨nonempty, proper, shape⟩
      rw [List.cons_append, List.append_cons] at shape
      rcases List.cons_eq_cons.mp shape with ⟨rfl, masked⟩
      have plain : ∀ other ∈ pair.1 ++ [backtick], other ≠ '\'' ∧ other ≠ '"' := by
        intro other member
        exact ⟨(IsName.ordinary ⟨nonempty, proper⟩ (.inl rfl) other member).1,
          (IsName.ordinary ⟨nonempty, proper⟩ (.inr rfl) other member).1⟩
      rcases append_of_mask_eq masked plain with ⟨behind, rfl, -⟩
      have quoted := quotedName?_append nonempty proper behind
      rw [List.append_assoc, List.singleton_append, ← List.cons_append] at unnamed
      rw [unnamed] at quoted
      cases quoted

/-- Masking and renaming do not interfere with each other. -/
theorem Renamed.mask (renamed : Renamed known newName before after) :
    Renamed known newName (Sql.mask before) (Sql.mask after) := by
  generalize size : before.length = bound
  induction bound using Nat.strong_induction_on generalizing before after with
  | h bound induction =>
      have literal := renamed.behindLiteral?
      cases found : Sql.behindLiteral? before with
      | some rest =>
          cases foundAfter : Sql.behindLiteral? after with
          | none => rw [found, foundAfter] at literal; cases literal
          | some restAfter =>
              rw [found, foundAfter] at literal
              cases literal with
              | some behind =>
                  rw [mask_literal found, mask_literal foundAfter]
                  have masked := induction _ (size ▸ length_behindLiteral? found) behind rfl
                  have unnamed (rest : Text) : Sql.quotedName? ('\'' :: rest) = none := rfl
                  exact .single (unnamed _) (.single (unnamed _) masked)
      | none =>
          cases foundAfter : Sql.behindLiteral? after with
          | some restAfter => rw [found, foundAfter] at literal; cases literal
          | none =>
              cases renamed with
              | nil => exact .nil
              | @name name rest restAfter proper among image later =>
                  have keeps {name : Text} (proper : IsName name) (rest : Text) :
                      Sql.mask (backtick :: name ++ backtick :: rest) =
                        backtick :: name ++ backtick :: Sql.mask rest := by
                    have plain : ∀ character ∈ backtick :: (name ++ [backtick]),
                        character ≠ '\'' ∧ character ≠ '"' := by
                      rw [List.forall_mem_cons]
                      refine ⟨by decide, fun character member => ?_⟩
                      exact ⟨(proper.ordinary (.inl rfl) character member).1,
                        (proper.ordinary (.inr rfl) character member).1⟩
                    have masked := mask_append plain rest
                    simpa using masked
                  rw [keeps proper, keeps image]
                  refine .name proper among image (induction _ ?_ later rfl)
                  simp only [← size, List.length_append, List.length_cons]
                  omega
              | single unnamed later =>
                  rw [mask_other found, mask_other foundAfter]
                  exact .single (quotedName?_mask_eq_none unnamed)
                    (induction _ (size ▸ Nat.lt_succ_self _) later rfl)

end Masks

/-! ## What names say themselves -/

/-- The searches for words find the same in both names. -/
structure Alike (first second : Text) : Prop where
  key : mentionsKey first = mentionsKey second
  timestamp : mentionsTimestamp first = mentionsTimestamp second
  unsigned : mentionsUnsigned first = mentionsUnsigned second

theorem Alike.refl (name : Text) : Alike name name := ⟨rfl, rfl, rfl⟩

section Mentions

variable {choices : List Text}

theorem isSome_ownWord? (letters : Text) (previous : Option Char) (text : Text) :
    (ownWord? letters previous text).isSome =
      (!isWordCharacter? previous &&
        (word? letters text).any fun rest => !isWordCharacter? rest.head?) := by
  simp only [ownWord?]
  cases isWordCharacter? previous with
  | true => rfl
  | false =>
      cases word? letters text with
      | none => rfl
      | some rest => cases next : isWordCharacter? rest.head? <;> simp [next]

theorem hasOwnWordAfter_previous {first second : Option Char}
    (same : isWordCharacter? first = isWordCharacter? second) (text : Text) :
    hasOwnWordAfter choices first text = hasOwnWordAfter choices second text := by
  cases text with
  | nil => rfl
  | cons character text => simp only [hasOwnWordAfter, ownWord?, same]

/-- A character that is part of no word and no name separates what stands on its sides. -/
theorem hasOwnWordAfter_bar {bar : Char} (apart : Character.isWord bar = false)
    (foreign : ∀ letters ∈ choices, letters ≠ [] ∧
      ∀ letter ∈ letters, Character.spells letter bar = false)
    (previous : Option Char) (left right : Text) :
    hasOwnWordAfter choices previous (left ++ bar :: right) =
      (hasOwnWordAfter choices previous left || hasOwnWordAfter choices none right) := by
  have behind : isWordCharacter? (some bar) = isWordCharacter? none := apart
  have same (previous : Option Char) (left : Text) {letters : Text} (member : letters ∈ choices) :
      (ownWord? letters previous (left ++ bar :: right)).isSome =
        (ownWord? letters previous left).isSome := by
    rw [isSome_ownWord?, isSome_ownWord?, bars_word (foreign letters member).2 left right]
    cases word? letters left with
    | none => rfl
    | some rest =>
        cases rest with
        | nil =>
            rw [Option.map_some, List.nil_append, Option.any_some, List.head?_cons, behind]
            rfl
        | cons => rfl
  have any (previous : Option Char) (left : Text) :
      (choices.any fun letters => (ownWord? letters previous (left ++ bar :: right)).isSome) =
        choices.any fun letters => (ownWord? letters previous left).isSome := by
    rw [Bool.eq_iff_iff, List.any_eq_true, List.any_eq_true]
    exact exists_congr fun letters => and_congr_right fun member => by
      rw [same previous left member]
  induction left generalizing previous with
  | nil =>
      have none : (choices.any fun letters => (ownWord? letters previous []).isSome) = false := by
        rw [List.any_eq_false]
        intro letters member
        rcases List.exists_cons_of_ne_nil (foreign letters member).1 with ⟨letter, more, rfl⟩
        simp [ownWord?, word?]
      have here := any previous []
      rw [List.nil_append, none] at here
      rw [List.nil_append]
      simp only [hasOwnWordAfter, here, hasOwnWordAfter_previous behind]
  | cons first left induction =>
      have here := any previous (first :: left)
      rw [List.cons_append] at here ⊢
      rw [hasOwnWordAfter, here, induction, hasOwnWordAfter, Bool.or_assoc]

variable {known : Text → Prop} {newName : Text → Text} {before after : Text}

theorem Renamed.hasOwnWordAfter
    (foreign : ∀ letters ∈ choices, letters ≠ [] ∧
      ∀ letter ∈ letters, Character.spells letter backtick = false)
    (same : ∀ name, known name → Sql.hasOwnWordAfter choices none name =
      Sql.hasOwnWordAfter choices none (newName name))
    (renamed : Renamed known newName before after) (previous : Option Char) :
    Sql.hasOwnWordAfter choices previous before =
      Sql.hasOwnWordAfter choices previous after := by
  have apart : Character.isWord backtick = false := by decide
  induction renamed generalizing previous with
  | nil => rfl
  | @name name rest restAfter proper among image later induction =>
      have opening (text : Text) := hasOwnWordAfter_bar apart foreign previous [] text
      simp only [List.nil_append] at opening
      rw [List.cons_append, List.cons_append, opening, opening,
        hasOwnWordAfter_bar apart foreign, hasOwnWordAfter_bar apart foreign, same name among,
        induction none]
  | @single character rest restAfter unnamed later induction =>
      have own {letters : Text} (member : letters ∈ choices) :
          (ownWord? letters previous (character :: rest)).isSome =
            (ownWord? letters previous (character :: restAfter)).isSome := by
        have found := respects_word (foreign letters member).2 _ _ (.single unnamed later)
        rw [isSome_ownWord?, isSome_ownWord?]
        generalize word? letters (character :: rest) = left at found
        generalize word? letters (character :: restAfter) = right at found
        cases found with
        | none => rfl
        | some behind => rw [Option.any_some, Option.any_some, behind.head?]
      rw [Sql.hasOwnWordAfter, Sql.hasOwnWordAfter, induction]
      congr 1
      rw [Bool.eq_iff_iff, List.any_eq_true, List.any_eq_true]
      exact exists_congr fun letters => and_congr_right fun member => by rw [own member]

theorem Renamed.mentionsKey (alike : ∀ name, known name → Alike name (newName name))
    (renamed : Renamed known newName before after) :
    Sql.mentionsKey before = Sql.mentionsKey after :=
  renamed.hasOwnWordAfter (by decide) (fun name among => (alike name among).key) none

theorem Renamed.occurs_word (renamed : Renamed known newName before after) (letter : Char)
    (letters : Text)
    (foreign : ∀ known ∈ letter :: letters, Character.spells known backtick = false)
    (same : ∀ name, known name → occurs (word? (letter :: letters)) name =
      occurs (word? (letter :: letters)) (newName name)) :
    occurs (word? (letter :: letters)) before = occurs (word? (letter :: letters)) after := by
  have bars := bars_word foreign
  have nothing : word? (letter :: letters) [] = none := rfl
  induction renamed with
  | nil => rfl
  | @name name rest restAfter proper among image later induction =>
      have opening (text : Text) := occurs_bar_eq bars nothing [] text
      simp only [List.nil_append] at opening
      rw [List.cons_append, List.cons_append, opening, opening, occurs_bar_eq bars nothing,
        occurs_bar_eq bars nothing, same name among, induction]
  | @single character rest restAfter unnamed later induction =>
      have found := respects_word foreign _ _ (.single unnamed later)
      simp only [occurs, search?] at induction ⊢
      generalize word? (letter :: letters) (character :: rest) = left at found
      generalize word? (letter :: letters) (character :: restAfter) = right at found
      cases found with
      | none => exact induction
      | some behind => rfl

theorem Renamed.mentionsTimestamp (alike : ∀ name, known name → Alike name (newName name))
    (renamed : Renamed known newName before after) :
    Sql.mentionsTimestamp before = Sql.mentionsTimestamp after :=
  renamed.occurs_word 't' ['i', 'm', 'e', 's', 't', 'a', 'm', 'p'] (by decide)
    fun name among => (alike name among).timestamp

theorem Renamed.mentionsUnsigned (alike : ∀ name, known name → Alike name (newName name))
    (renamed : Renamed known newName before after) :
    Sql.mentionsUnsigned before = Sql.mentionsUnsigned after :=
  renamed.occurs_word 'u' ['n', 's', 'i', 'g', 'n', 'e', 'd'] (by decide)
    fun name among => (alike name among).unsigned

end Mentions

end Sql

end SchemaSeed
