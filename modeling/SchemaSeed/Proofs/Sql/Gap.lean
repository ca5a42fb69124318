import SchemaSeed.Proofs.Column.Front
import SchemaSeed.Proofs.Sql.Renaming
import SchemaSeed.Proofs.Sql.Stripped

/-! A blank between two texts.  Patterns are made of words and of the blanks between them, so
all that they find is found on either side of a blank that parts no word, and it is found
there without the blank too. -/

namespace SchemaSeed

namespace Character

theorem isAlpha_of_toNat {character : Char}
    (letter : 65 ≤ character.toNat ∧ character.toNat ≤ 90 ∨
      97 ≤ character.toNat ∧ character.toNat ≤ 122) : character.isAlpha = true := by
  have upper : character.isUpper =
      decide ('A'.val ≤ character.val ∧ character.val ≤ 'Z'.val) := rfl
  have lower : character.isLower =
      (decide ('a'.val ≤ character.val) && decide (character.val ≤ 'z'.val)) := rfl
  have alpha : character.isAlpha = (character.isUpper || character.isLower) := rfl
  rw [alpha, upper, lower]
  simp only [UInt32.le_iff_toNat_le, Bool.or_eq_true, Bool.and_eq_true, decide_eq_true_eq]
  exact letter

set_option maxRecDepth 8000 in
/-- All characters that spell a letter belong to words. -/
theorem isWord_of_spells {letter character : Char}
    (small : 97 ≤ letter.toNat ∧ letter.toNat ≤ 122) (spelled : spells letter character = true) :
    isWord character = true := by
  have special (code : Nat) (word : isWord (Char.ofNat code) = true)
      (same : character.toNat = code) : isWord character = true := by
    rw [← Char.ofNat_toNat character, same]
    exact word
  simp only [spells, Bool.or_eq_true, Bool.and_eq_true, beq_iff_eq] at spelled
  rcases spelled with ((lower | ⟨-, dotted | dotless⟩) | ⟨-, long⟩) | ⟨-, kelvin⟩
  · have code := toNat_toLower character
    rw [lower] at code
    have letter : character.isAlpha = true := by
      apply isAlpha_of_toNat
      split at code <;> omega
    exact isWord_of_isAlphanum (by rw [Char.isAlphanum, letter, Bool.true_or])
  · exact special _ (by decide) dotted
  · exact special _ (by decide) dotless
  · exact special _ (by decide) long
  · exact special _ (by decide) kelvin

set_option maxRecDepth 8000 in
theorem isWord_of_isDecimalDigit {character : Char} (digit : isDecimalDigit character = true) :
    isWord character = true := by
  have tabulated : (digitZeros.all fun first => Nat.beq first 48 || Nat.ble 128 first &&
      CodeRange.wordBeyondAscii.any fun range =>
        Nat.ble range.1 first && Nat.ble (first + 9) range.2) = true := by
    decide
  simp only [List.all_eq_true, List.any_eq_true, Bool.or_eq_true, Bool.and_eq_true, Nat.beq_eq,
    Nat.ble_eq] at tabulated
  rcases Option.isSome_iff_exists.mp digit with ⟨value, found⟩
  rcases Option.map_eq_some_iff.mp found with ⟨first, located, -⟩
  have inside := List.find?_some located
  simp only [Bool.and_eq_true, decide_eq_true_eq] at inside
  rcases tabulated first (List.mem_of_find?_eq_some located) with
    rfl | ⟨beyond, range, known, bounds⟩
  · have ascii : character.isDigit = true := by
      have figure : character.isDigit =
          (decide ('0'.val ≤ character.val) && decide (character.val ≤ '9'.val)) := rfl
      simp only [figure, UInt32.le_iff_toNat_le, Bool.and_eq_true, decide_eq_true_eq]
      exact ⟨inside.1, Nat.le_of_lt_succ inside.2⟩
    exact isWord_of_isAlphanum (by rw [Char.isAlphanum, ascii, Bool.or_true])
  · have wide : ¬ character.val < 128 := by
      rw [UInt32.lt_iff_toNat_lt]
      exact Nat.not_lt.mpr (beyond.trans inside.1)
    rw [isWord, if_neg wide, List.any_eq_true]
    refine ⟨range, known, ?_⟩
    simp only [CodeRange.contains, Bool.and_eq_true, decide_eq_true_eq]
    omega

theorem isWord_of_isBlank {character : Char} (blank : isBlank character = true) :
    isWord character = false := by
  cases word : isWord character with
  | false => rfl
  | true =>
      have solid := @Sql.isBlank_of_isNameCharacter character
        (by rw [Sql.isNameCharacter, word, Bool.true_or])
      rw [blank] at solid
      cases solid

end Character

namespace Sql

/-! ## Patterns -/

/-- A matcher that reads words and the blanks between them. -/
structure ReadsWords (matcher : Text → Option Text) : Prop where
  nothing : matcher [] = none
  bars : ∀ character, Character.isWord character = false →
    Character.isBlank character = false → Bars matcher character
  leading : ∀ character rest, Character.isBlank character = true →
    matcher (character :: rest) = none
  trailing : ∀ left, matcher (left ++ [' ']) = (matcher left).map (· ++ [' '])

/-- Letters that only characters of words spell. -/
def Alphabetic (letters : Text) : Prop :=
  ∀ letter ∈ letters, 97 ≤ letter.toNat ∧ letter.toNat ≤ 122

instance (letters : Text) : Decidable (Alphabetic letters) :=
  inferInstanceAs (Decidable (∀ letter ∈ letters, 97 ≤ letter.toNat ∧ letter.toNat ≤ 122))

theorem Alphabetic.foreign {letters : Text} (alphabetic : Alphabetic letters) {character : Char}
    (apart : Character.isWord character = false) :
    ∀ letter ∈ letters, Character.spells letter character = false := by
  intro letter member
  cases spelled : Character.spells letter character with
  | false => rfl
  | true =>
      rw [Character.isWord_of_spells (alphabetic letter member) spelled] at apart
      cases apart

theorem word?_nil {letters : Text} (nonempty : letters ≠ []) : word? letters [] = none := by
  cases letters with
  | nil => exact absurd rfl nonempty
  | cons => rfl

theorem readsWords_word {letters : Text} (nonempty : letters ≠ [])
    (alphabetic : Alphabetic letters) : ReadsWords (word? letters) where
  nothing := word?_nil nonempty
  bars _ apart _ := bars_word (alphabetic.foreign apart)
  leading character rest blank := by
    have bars := bars_word (alphabetic.foreign (Character.isWord_of_isBlank blank)) [] rest
    rwa [word?_nil nonempty] at bars
  trailing left := bars_word (alphabetic.foreign (by decide)) left []

theorem readsWords_phrase {first second : Text} (nonempty : first ≠ [] ∧ second ≠ [])
    (alphabetic : Alphabetic (first ++ second)) : ReadsWords (phrase? first second) := by
  have alphabeticFirst : Alphabetic first :=
    fun letter member => alphabetic letter (List.mem_append_left _ member)
  have alphabeticSecond : Alphabetic second :=
    fun letter member => alphabetic letter (List.mem_append_right _ member)
  have reads := readsWords_word nonempty.1 alphabeticFirst
  have readsSecond := readsWords_word nonempty.2 alphabeticSecond
  refine ⟨?_, fun character apart solid => bars_phrase (alphabetic.foreign apart) solid, ?_, ?_⟩
  · rw [phrase?, reads.nothing]
    rfl
  · intro character rest blank
    rw [phrase?, reads.leading character rest blank]
    rfl
  · intro left
    have space : Character.isBlank ' ' = true := by decide
    simp only [phrase?, reads.trailing]
    cases word? first left with
    | none => rfl
    | some rest =>
        cases rest with
        | nil => simp [blanks?, space, Text.skipBlanks, readsSecond.nothing]
        | cons character rest =>
            simp only [Option.map_some, Option.bind_some, List.cons_append, blanks?]
            split
            · rw [Option.bind_some, Option.bind_some, Text.skipBlanks, Text.skipBlanks,
                List.dropWhile_append]
              cases rest.dropWhile Character.isBlank with
              | nil =>
                  rw [List.isEmpty_nil, if_pos rfl, List.dropWhile_cons_of_pos space,
                    List.dropWhile_nil, readsSecond.nothing]
                  rfl
              | cons next more => exact readsSecond.trailing (next :: more)
            · rfl

/-! ## Searches -/

/-- Two characters that a blank between them does not part: neither is blank, and they are
not characters of one word. -/
structure Apart (last first : Char) : Prop where
  solidLast : Character.isBlank last = false
  solidFirst : Character.isBlank first = false
  words : Character.isWord last = false ∨ Character.isWord first = false

/-- The text as it is, or with a blank in front of it. -/
def spaced : Bool → Text → Text
  | false, text => text
  | true, text => ' ' :: text

theorem phrase?_suffix {first second text rest : Text}
    (matched : phrase? first second text = some rest) : rest <:+ text := by
  rcases phrase?_eq_some matched with ⟨word, gap, last, rfl, -⟩
  exact List.suffix_append _ _

theorem search?_suffix {matcher : Text → Option Text}
    (suffix : ∀ text rest, matcher text = some rest → rest <:+ text) {text rest : Text}
    (found : search? matcher text = some rest) : rest <:+ text := by
  induction text with
  | nil => cases found
  | cons character text induction =>
      rw [search?] at found
      cases here : matcher (character :: text) with
      | some matched =>
          rw [here] at found
          cases found
          exact suffix _ _ here
      | none =>
          rw [here] at found
          exact (induction found).trans (List.suffix_cons _ _)

theorem search?_trailing {matcher : Text → Option Text} (reads : ReadsWords matcher)
    (left : Text) :
    search? matcher (left ++ [' ']) = (search? matcher left).map (· ++ [' ']) := by
  induction left with
  | nil =>
      have here := reads.leading ' ' [] (by decide)
      simp [search?, here]
  | cons character left induction =>
      have here := reads.trailing (character :: left)
      rw [List.cons_append] at here ⊢
      rw [search?, here, induction, search?]
      cases matcher (character :: left) <;> rfl

section Apart

variable {left : Text} {last first : Char} (ends : left.getLast? = some last)
  (apart : Apart last first)

include ends apart

/-- A search finds nothing that runs over the place of the blank. -/
theorem search?_spaced {matcher : Text → Option Text} (reads : ReadsWords matcher) (rest : Text)
    (gap : Bool) :
    search? matcher (left ++ spaced gap (first :: rest)) =
      ((search? matcher left).map (· ++ spaced gap (first :: rest))).or
        (search? matcher (first :: rest)) := by
  have later : search? matcher (spaced gap (first :: rest)) = search? matcher (first :: rest) := by
    cases gap with
    | false => rfl
    | true => rw [spaced, search?, reads.leading ' ' _ (by decide), Option.none_or]
  rcases apart.words with nonword | nonword
  · rcases List.getLast?_eq_some_iff.mp ends with ⟨front, rfl⟩
    have bars := reads.bars last nonword apart.solidLast
    have alone := search?_bar bars reads.nothing front []
    rw [List.append_assoc, List.singleton_append, search?_bar bars reads.nothing, alone, later]
    cases search? matcher front <;> simp [search?]
  · have bars := reads.bars first nonword apart.solidFirst
    have behind := search?_bar bars reads.nothing [] rest
    rw [List.nil_append] at behind
    rw [behind]
    cases gap with
    | false =>
        rw [spaced, search?_bar bars reads.nothing]
        rfl
    | true =>
        have shape : left ++ ' ' :: first :: rest = left ++ [' '] ++ first :: rest := by simp
        rw [spaced, shape, search?_bar bars reads.nothing, search?_trailing reads]
        cases search? matcher left <;> simp [search?]

theorem occurs_spaced {matcher : Text → Option Text} (reads : ReadsWords matcher) (rest : Text)
    (gap : Bool) :
    occurs matcher (left ++ spaced gap (first :: rest)) =
      (occurs matcher left || occurs matcher (first :: rest)) := by
  rw [occurs, search?_spaced ends apart reads, Option.isSome_or, Option.isSome_map]
  rfl

theorem hasOwnWordAfter_spaced {choices : List Text}
    (letters : ∀ letters ∈ choices, letters ≠ [] ∧ Alphabetic letters) (rest : Text)
    (gap : Bool) (previous : Option Char) :
    hasOwnWordAfter choices previous (left ++ spaced gap (first :: rest)) =
      (hasOwnWordAfter choices previous left || hasOwnWordAfter choices none (first :: rest)) := by
  have bar {character : Char} (apart : Character.isWord character = false)
      (previous : Option Char) (left right : Text) :=
    hasOwnWordAfter_bar apart (fun known member => ⟨(letters known member).1,
      (letters known member).2.foreign apart⟩) previous left right
  have later : hasOwnWordAfter choices none (spaced gap (first :: rest)) =
      hasOwnWordAfter choices none (first :: rest) := by
    cases gap with
    | false => rfl
    | true => exact (bar (by decide) none [] (first :: rest)).trans (Bool.false_or _)
  rcases apart.words with nonword | nonword
  · rcases List.getLast?_eq_some_iff.mp ends with ⟨front, rfl⟩
    have alone := bar nonword previous front []
    rw [List.append_assoc, List.singleton_append, bar nonword, alone, later]
    simp [hasOwnWordAfter]
  · have behind := bar nonword none [] rest
    rw [List.nil_append] at behind
    rw [behind]
    cases gap with
    | false => exact bar nonword previous left rest
    | true =>
        have shape : left ++ ' ' :: first :: rest = left ++ [' '] ++ first :: rest := by simp
        have trailing := @bar ' ' (by decide) previous left []
        rw [spaced, shape, bar nonword, trailing]
        simp [hasOwnWordAfter]

end Apart

/-! ## Names -/

theorem firstName?_cons {character : Char} (different : character ≠ backtick) (rest : Text) :
    firstName? (character :: rest) = firstName? rest := by
  simp [firstName?, search?, quotedName?, different]

theorem firstName?_bar {character : Char} (bars : BarsNames character) (left right : Text) :
    firstName? (left ++ character :: right) = (firstName? left).or (firstName? right) := by
  induction left with
  | nil => exact firstName?_cons bars.noBacktick right
  | cons first left induction =>
      have here := quotedName?_bar bars (first :: left) right
      simp only [firstName?] at induction
      rw [List.cons_append] at here ⊢
      simp only [firstName?, search?, here]
      cases quotedName? (first :: left) with
      | some found => rfl
      | none => simpa using induction

theorem unquoted_of_isWord {character : Char} (word : Character.isWord character = true) :
    isQuote character = false := by
  have different {other : Char} (apart : Character.isWord other = false) : character ≠ other := by
    rintro rfl
    rw [word] at apart
    cases apart
  simp [isQuote, different (show Character.isWord '\'' = false by decide),
    different (show Character.isWord '"' = false by decide),
    different (show Character.isWord backtick = false by decide)]

theorem unquoted_of_phrase {first second text rest : Text}
    (alphabetic : Alphabetic (first ++ second)) (matched : phrase? first second text = some rest) :
    ∃ front, text = front ++ rest ∧ ∀ character ∈ front, isQuote character = false := by
  rcases phrase?_eq_some matched with ⟨word, gap, last, whole, spelled, -, blank, spelledLast⟩
  have unquoted {letters word : Text} (spelled : Spelled letters word)
      (alphabetic : Alphabetic letters) : ∀ character ∈ word, isQuote character = false := by
    intro character member
    rcases exists_of_mem_right spelled member with ⟨letter, known, spelledBy⟩
    exact unquoted_of_isWord (Character.isWord_of_spells (alphabetic letter known) spelledBy)
  refine ⟨word ++ gap ++ last, whole, fun character member => ?_⟩
  rcases List.mem_append.mp member with member | inLast
  · rcases List.mem_append.mp member with inWord | inGap
    · exact unquoted spelled (fun letter known => alphabetic letter (List.mem_append_left _ known))
        character inWord
    · exact unquoted_of_blank blank character inGap
  · exact unquoted spelledLast
      (fun letter known => alphabetic letter (List.mem_append_right _ known)) character inLast

namespace Lexical

variable {text : Text} (lexical : Lexical false IsName text)

include lexical

/-- A name that is found in lexical text ends in it. -/
theorem firstName? (right : Text) :
    Sql.firstName? (text ++ right) = (Sql.firstName? text).or (Sql.firstName? right) := by
  induction lexical with
  | nil => rfl
  | @plain character rest unquoted _ _ induction =>
      have different : character ≠ backtick := by
        rintro rfl
        cases unquoted
      rw [List.cons_append, firstName?_cons different, firstName?_cons different, induction]
  | @literal quote content rest opens _ _ _ induction =>
      have fences := fences_of_opens opens
      have split (rest : Text) : Sql.firstName? (quote :: content ++ quote :: rest) =
          (Sql.firstName? content).or (Sql.firstName? rest) := by
        rw [List.cons_append, firstName?_cons fences.noBacktick, firstName?_bar fences.toBarsNames]
      have shape : quote :: content ++ quote :: rest ++ right =
          quote :: content ++ quote :: (rest ++ right) := by simp
      rw [shape, split, split, induction, Option.or_assoc]
  | @name name rest _ proper _ _ =>
      have found (rest : Text) : Sql.firstName? (backtick :: name ++ backtick :: rest) =
          some name := @firstName?_append [] name (by simp) proper.1 proper.2 rest
      have shape : backtick :: name ++ backtick :: rest ++ right =
          backtick :: name ++ backtick :: (rest ++ right) := by simp
      rw [shape, found, found]
      rfl
  | block comments | line comments => cases comments

/-- So does a name that is found behind two words. -/
theorem firstName?_behind {first second : Text} (nonempty : first ≠ [] ∧ second ≠ [])
    (alphabetic : Alphabetic (first ++ second)) {rest : Text}
    (found : search? (phrase? first second) text = some rest) (right : Text) :
    Sql.firstName? (rest ++ right) = (Sql.firstName? rest).or (Sql.firstName? right) := by
  have reads := readsWords_phrase nonempty alphabetic
  induction lexical with
  | nil => cases found
  | @plain character behind unquoted code later induction =>
      rw [search?] at found
      cases here : phrase? first second (character :: behind) with
      | none =>
          rw [here] at found
          exact induction found
      | some matched =>
          rw [here] at found
          cases found
          rcases unquoted_of_phrase alphabetic here with ⟨front, whole, unquotedFront⟩
          have lexical := Lexical.plain unquoted code later
          rw [whole] at lexical
          exact (lexical.tail_of_unquoted unquotedFront).firstName? right
  | @literal quote content behind opens _ _ later induction =>
      have fences := fences_of_opens opens
      have nonword : Character.isWord quote = false := by rcases opens with rfl | rfl <;> decide
      have bars := reads.bars quote nonword fences.solid
      have opening := search?_bar bars reads.nothing [] (content ++ quote :: behind)
      rw [List.nil_append] at opening
      rw [List.cons_append, opening, search?_bar bars reads.nothing] at found
      cases inside : search? (phrase? first second) content with
      | none =>
          rw [inside] at found
          exact induction found
      | some matched =>
          rw [inside] at found
          cases found
          rw [List.append_assoc, List.cons_append, firstName?_bar fences.toBarsNames,
            firstName?_bar fences.toBarsNames, later.firstName?, Option.or_assoc]
  | @name name behind _ proper later induction =>
      have bars := reads.bars backtick (by decide) (by decide)
      have opening := search?_bar bars reads.nothing [] (name ++ backtick :: behind)
      have silent : search? (phrase? first second) name = none := by
        have absent := occurs_eq_false_of_all (phrase?_eq_none_of_solid first second)
          fun character member => isBlank_of_isNameCharacter (proper.2 character member)
        rwa [occurs, Option.isSome_eq_false_iff, Option.isNone_iff_eq_none] at absent
      rw [List.nil_append] at opening
      rw [List.cons_append, opening, search?_bar bars reads.nothing, silent] at found
      exact induction found
  | block comments | line comments => cases comments

end Lexical

/-! ## Masks -/

theorem mask_name {name : Text} (unescaped : Unescaped name) (rest : Text) :
    mask (backtick :: name ++ backtick :: rest) =
      backtick :: name ++ backtick :: mask rest := by
  rw [quoted_append, quoted_append backtick name (mask rest)]
  refine @mask_append (backtick :: name ++ [backtick]) (fun character member => ?_) rest
  rcases List.mem_append.mp member with front | back
  · rcases List.mem_cons.mp front with rfl | inside
    · decide
    · exact ⟨(unescaped character inside).1, (unescaped character inside).2.1⟩
  · rw [List.mem_singleton.mp back]
    decide

theorem mask_unquoted {character : Char} (unquoted : isQuote character = false) (rest : Text) :
    mask (character :: rest) = character :: mask rest := by
  refine @mask_append [character] ?_ rest
  intro other member
  rw [List.mem_singleton.mp member]
  constructor <;> (rintro rfl; cases unquoted)

/-- A mask starts like the text, or with a literal. -/
theorem mask_cons (character : Char) (rest : Text) :
    ∃ other behind, mask (character :: rest) = other :: behind ∧
      (other = character ∨ other = '\'') := by
  cases literal : behindLiteral? (character :: rest) with
  | none => exact ⟨character, mask rest, mask_other literal, .inl rfl⟩
  | some behind => exact ⟨'\'', _, mask_literal literal, .inr rfl⟩

namespace Lexical

variable {admits : Text → Prop} {text : Text} (lexical : Lexical false admits text)
  (unescaped : ∀ name, admits name → Unescaped name)

include lexical unescaped

theorem mask : Lexical false admits (Sql.mask text) := by
  induction lexical with
  | nil => exact .nil
  | plain unquoted _ _ induction =>
      rw [mask_unquoted unquoted]
      exact .plain unquoted (by simp) induction
  | literal opens complete single _ induction =>
      rw [mask_literal (complete.behindLiteral? opens single)]
      exact Token.append (.literal (.inl rfl) .nil) induction
  | name inside admitted _ induction =>
      rw [mask_name (unescaped _ admitted)]
      exact .name inside admitted induction
  | block comments | line comments => cases comments

/-- A mask ends like the text, or with a literal. -/
theorem getLast?_mask {last : Char} (ends : text.getLast? = some last) :
    ∃ other, (Sql.mask text).getLast? = some other ∧ (other = last ∨ other = '\'') := by
  -- The last piece of the text decides, whatever stands before it.
  have step {part masked rest : Text} {final other : Char} (here : part.getLast? = some final)
      (hereMasked : masked.getLast? = some other) (known : other = final ∨ other = '\'')
      (later : rest.getLast? = some last →
        ∃ other, (Sql.mask rest).getLast? = some other ∧ (other = last ∨ other = '\''))
      (ends : (part ++ rest).getLast? = some last) :
      ∃ other, (masked ++ Sql.mask rest).getLast? = some other ∧
        (other = last ∨ other = '\'') := by
    rw [List.getLast?_append] at ends ⊢
    cases behind : rest.getLast? with
    | none =>
        rw [behind, here] at ends
        cases ends
        rw [List.getLast?_eq_none_iff.mp behind]
        exact ⟨other, hereMasked, known⟩
    | some found =>
        rw [behind] at ends
        rcases later (behind.trans ends) with ⟨found, masked, known⟩
        exact ⟨found, by rw [masked]; rfl, known⟩
  induction lexical with
  | nil => cases ends
  | @plain character rest unquoted _ _ induction =>
      rw [mask_unquoted unquoted]
      exact @step [character] [character] rest _ _ rfl rfl (.inl rfl) induction ends
  | @literal quote content rest opens complete single _ induction =>
      rw [mask_literal (complete.behindLiteral? opens single)]
      rw [quoted_append] at ends
      exact @step _ ['\'', '\''] rest quote '\'' (by rw [List.getLast?_append]; rfl) rfl (.inr rfl)
        induction ends
  | @name name rest inside admitted _ induction =>
      have final : (backtick :: name ++ [backtick]).getLast? = some backtick := by
        rw [List.getLast?_append]
        rfl
      rw [mask_name (unescaped _ admitted), quoted_append]
      rw [quoted_append] at ends
      exact step final final (.inl rfl) induction ends
  | block comments | line comments => cases comments

end Lexical

/-! ## Joints -/

/-- Lexical text ends with a character that no blank parts from the one behind it.  A name in
backticks that is read over the place would start with the backtick that ends another one, so
there is none if all names are proper or if one of the two characters bars names. -/
structure Joint (left : Text) (last first : Char) : Prop where
  lexical : Lexical false Unescaped left
  ends : left.getLast? = some last
  apart : Apart last first
  names : Lexical false IsName left ∨ BarsNames last ∨ BarsNames first

namespace Joint

variable {left : Text} {last first : Char} (joint : Joint left last first)

include joint

theorem behind {lead rest : Text} (whole : left = lead ++ rest) (nonempty : rest ≠ [])
    (lexical : ∀ admits, Lexical false admits left → Lexical false admits rest) :
    Joint rest last first where
  lexical := lexical _ joint.lexical
  ends := by
    have ends := joint.ends
    rwa [whole, List.getLast?_append_of_ne_nil _ nonempty] at ends
  apart := joint.apart
  names := joint.names.imp_left (lexical _)

theorem skipBlanks_append (right : Text) :
    Text.skipBlanks (left ++ right) = Text.skipBlanks left ++ right := by
  rcases List.getLast?_eq_some_iff.mp joint.ends with ⟨front, rfl⟩
  have solid := joint.apart.solidLast
  have alone := skipBlanks_append_of_not_blank solid front []
  rw [List.append_assoc, List.singleton_append, skipBlanks_append_of_not_blank solid, alone,
    List.append_assoc, List.singleton_append]

theorem skipBlanks : Joint (Text.skipBlanks left) last first where
  lexical := joint.lexical.skipBlanks
  ends := by
    rcases List.getLast?_eq_some_iff.mp joint.ends with ⟨front, rfl⟩
    rw [skipBlanks_append_of_not_blank joint.apart.solidLast, List.getLast?_append]
    rfl
  apart := joint.apart
  names := joint.names.imp_left Lexical.skipBlanks

theorem mask (rest : Text) : ∃ lastMasked firstMasked behind,
    Sql.mask (first :: rest) = firstMasked :: behind ∧
      Joint (Sql.mask left) lastMasked firstMasked := by
  rcases joint.lexical.getLast?_mask (fun _ => id) joint.ends with ⟨lastMasked, ends, knownLast⟩
  rcases mask_cons first rest with ⟨firstMasked, behind, starts, knownFirst⟩
  have masked (property : Char → Prop) (quote : property '\'') {character other : Char}
      (known : other = character ∨ other = '\'') (holds : property character) : property other := by
    rcases known with rfl | rfl
    · exact holds
    · exact quote
  refine ⟨lastMasked, firstMasked, behind, starts, joint.lexical.mask fun _ => id, ends,
    ⟨?_, ?_, ?_⟩, ?_⟩
  · exact masked (Character.isBlank · = false) (by decide) knownLast joint.apart.solidLast
  · exact masked (Character.isBlank · = false) (by decide) knownFirst joint.apart.solidFirst
  · exact joint.apart.words.imp
      (masked (Character.isWord · = false) (by decide) knownLast)
      (masked (Character.isWord · = false) (by decide) knownFirst)
  · exact joint.names.imp (fun proper => proper.mask fun _ => IsName.unescaped)
      (Or.imp (masked BarsNames ⟨by decide, by decide⟩ knownLast)
        (masked BarsNames ⟨by decide, by decide⟩ knownFirst))

/-- A name is found on either side of the place, if names that are proper are. -/
theorem firstName?_append {part right : Text} (suffix : part <:+ left)
    (proper : Lexical false IsName left →
      firstName? (part ++ right) = (firstName? part).or (firstName? right))
    (starts : ∀ character, right.head? = some character → character = first) :
    firstName? (part ++ right) = (firstName? part).or (firstName? right) := by
  rcases joint.names with names | bars | bars
  · exact proper names
  · rcases List.eq_nil_or_concat part with rfl | ⟨front, final, rfl⟩
    · rfl
    · rw [List.concat_eq_append] at suffix ⊢
      rcases suffix with ⟨lead, whole⟩
      have ends := joint.ends
      rw [← whole, ← List.append_assoc, List.getLast?_concat] at ends
      cases ends
      rw [List.append_assoc, List.singleton_append, firstName?_bar bars, firstName?_bar bars]
      cases firstName? front <;> rfl
  · cases right with
    | nil => rw [List.append_nil]; cases firstName? part <;> rfl
    | cons character right =>
        cases starts character rfl
        rw [firstName?_bar bars, firstName?_cons bars.noBacktick]

/-- A mask is taken on either side, unless two literals meet there. -/
theorem mask_spaced (unlike : last = first → last ≠ '\'' ∧ last ≠ '"') (rest : Text) (gap : Bool) :
    Sql.mask (left ++ spaced gap (first :: rest)) =
      Sql.mask left ++ spaced gap (Sql.mask (first :: rest)) := by
  have later : Sql.mask (spaced gap (first :: rest)) = spaced gap (Sql.mask (first :: rest)) := by
    cases gap with
    | false => rfl
    | true => exact mask_unquoted (by decide) _
  rw [← later]
  apply joint.lexical.mask_append
  rintro quote opens final starts
  rw [joint.ends] at final
  cases final
  cases gap with
  | false =>
      cases starts
      rcases opens with rfl | rfl
      · exact (unlike rfl).1 rfl
      · exact (unlike rfl).2 rfl
  | true =>
      cases starts
      rcases opens with opens | opens <;> exact absurd opens (by decide)

end Joint

end Sql

end SchemaSeed
