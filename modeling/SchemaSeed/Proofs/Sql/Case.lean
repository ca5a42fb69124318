import SchemaSeed.Proofs.Sql.Blanks
import SchemaSeed.Proofs.Sql.Pieces
import SchemaSeed.Proofs.Text.Case
import SchemaSeed.Sql.Candidate
import SchemaSeed.Sql.StringLiteral

/-! Letter case in declarations.  Quotes, parentheses, commas and backslashes have no case,
and key words are matched in any.  Scans, groups, lists, masks and searches therefore find in
a text in lower case what they find in the text. -/

namespace SchemaSeed

namespace Sql

open Character Text

/-! ## Scans -/

@[simp] theorem isQuote_toLower (character : Char) :
    isQuote character.toLower = isQuote character :=
  apply_toLower (by decide) character

theorem toLower_of_isQuote {character : Char} (quote : isQuote character = true) :
    character.toLower = character := by
  simp only [isQuote, Bool.or_eq_true, beq_iff_eq] at quote
  rcases quote with (rfl | rfl) | rfl <;> rfl

/-- Characters by which a scan finds its way. -/
theorem toLower_eq_mark {mark : Char} (known : mark ∈ ['(', ')', '\\', ',', '\'', '"', backtick])
    (character : Char) : character.toLower = mark ↔ character = mark := by
  apply toLower_eq_iff
  revert mark
  decide

theorem toLower_eq_quote {quote : Char} (known : isQuote quote = true) (character : Char) :
    character.toLower = quote ↔ character = quote := by
  apply toLower_eq_mark
  simp only [isQuote, Bool.or_eq_true, beq_iff_eq] at known
  rcases known with (rfl | rfl) | rfl <;> decide

theorem toLower_eq_backslash (character : Char) :
    character.toLower = '\\' ↔ character = '\\' :=
  toLower_eq_mark (by decide) character

theorem Scan.Reads.step_toLower {scan : Scan} (reads : scan.Reads false) (character : Char) :
    scan.step character.toLower = scan.step character := by
  rcases scan with ⟨mode, depth⟩
  cases mode with
  | plain =>
      simp only [Scan.step, Mode.step, @toLower_eq_mark '(' (by decide),
        @toLower_eq_mark ')' (by decide), isQuote_toLower]
      split
      · rfl
      · split
        · rfl
        · split
          · rename_i quote
            rw [toLower_of_isQuote quote]
          · rfl
  | quoted quote escaped =>
      have known := (reads quote escaped rfl).1
      cases escaped with
      | true => rfl
      | false =>
          simp only [Scan.step, Mode.step, toLower_eq_backslash, toLower_eq_quote known]

theorem separates_toLower (scan : Scan) (character : Char) :
    Parts.separates "," scan character.toLower = Parts.separates "," scan character := by
  apply apply_toLower
  simp only [Parts.separates]
  generalize scan.isTop = top
  revert top
  decide

section Scans

variable {scan : Scan} (reads : scan.Reads false) (text : Text)

include reads

theorem run_uncased : scan.run (uncased text) = scan.run text := by
  induction text generalizing scan with
  | nil => rfl
  | cons character text induction =>
      rw [uncased_cons, Scan.run_cons, Scan.run_cons, reads.step_toLower,
        induction (reads.step character)]

theorem opened?_uncased :
    opened? scan (uncased text) = (opened? scan text).map uncased := by
  induction text generalizing scan with
  | nil => rfl
  | cons character text induction =>
      simp only [uncased_cons, opened?, reads.step_toLower]
      split
      · exact induction (reads.step character)
      · rfl

theorem inside_uncased :
    inside scan (uncased text) = uncased (inside scan text) := by
  induction text generalizing scan with
  | nil => rfl
  | cons character text induction =>
      simp only [uncased_cons, inside, reads.step_toLower]
      split
      · rfl
      · rw [induction (reads.step character), uncased_cons]

theorem partsFrom_uncased :
    partsFrom "," scan (uncased text) = (partsFrom "," scan text).map uncased := by
  induction text generalizing scan with
  | nil => rfl
  | cons character text induction =>
      simp only [uncased_cons, partsFrom, separates_toLower, reads.step_toLower]
      split
      · rw [induction reads]
        rfl
      · rw [induction (reads.step character)]
        cases partsFrom "," (scan.step character) text <;> rfl

end Scans

theorem content?_uncased (text : Text) :
    content? (uncased text) = (content? text).map (Option.map uncased) := by
  have start : Scan.start.Reads false := reads_plain false 0
  rw [content?, content?, opened?_uncased start, run_uncased start]
  cases opened? Scan.start text with
  | none => cases (Scan.start.run text).mode.quote? <;> rfl
  | some rest =>
      have within := reads_plain false 1
      simp only [Option.map_some, inside_uncased within, run_uncased within]
      cases (Scan.run ⟨.plain, 1⟩ (inside ⟨.plain, 1⟩ rest)).mode.quote? <;> rfl

/-! ## Words and names -/

theorem word?_uncased (letters text : Text) :
    word? letters (uncased text) = (word? letters text).map uncased := by
  induction letters generalizing text with
  | nil => rfl
  | cons letter letters induction =>
      cases text with
      | nil => rfl
      | cons character text =>
          simp only [uncased_cons, word?, spells_toLower]
          split
          · exact induction text
          · rfl

theorem blanks?_uncased (text : Text) :
    blanks? (uncased text) = (blanks? text).map uncased := by
  cases text with
  | nil => rfl
  | cons character text =>
      simp only [uncased_cons, blanks?, isBlank_toLower, skipBlanks_uncased]
      split <;> rfl

theorem phrase?_uncased (first second text : Text) :
    phrase? first second (uncased text) = (phrase? first second text).map uncased := by
  simp only [phrase?, word?_uncased]
  cases word? first text with
  | none => rfl
  | some rest =>
      simp only [Option.map_some, Option.bind_some, blanks?_uncased]
      cases blanks? rest with
      | none => rfl
      | some behind => exact word?_uncased second behind

theorem search?_uncased {matcher : Text → Option α} {function : α → α}
    (same : ∀ text, matcher (uncased text) = (matcher text).map function) (text : Text) :
    search? matcher (uncased text) = (search? matcher text).map function := by
  induction text with
  | nil => rfl
  | cons character text induction =>
      rw [uncased_cons, search?, search?, induction, ← uncased_cons, same, Option.map_or]

theorem occurs_uncased {matcher : Text → Option Text}
    (same : ∀ text, matcher (uncased text) = (matcher text).map uncased) (text : Text) :
    occurs matcher (uncased text) = occurs matcher text := by
  rw [occurs, search?_uncased same, Option.isSome_map, occurs]

theorem occurs_tableMarker?_uncased (text : Text) :
    occurs tableMarker? (uncased text) = occurs tableMarker? text :=
  occurs_uncased (phrase?_uncased "create" "table") text

theorem search?_primaryKey?_uncased (text : Text) :
    search? primaryKey? (uncased text) = (search? primaryKey? text).map uncased :=
  search?_uncased (phrase?_uncased "primary" "key") text

@[simp] theorem isNameCharacter_toLower (character : Char) :
    isNameCharacter character.toLower = isNameCharacter character :=
  apply_toLower (by decide) character

theorem toLower_eq_backtick (character : Char) :
    character.toLower = backtick ↔ character = backtick :=
  toLower_eq_mark (by decide) character

theorem quotedName?_uncased (text : Text) :
    quotedName? (uncased text) = (quotedName? text).map (Prod.map uncased uncased) := by
  cases text with
  | nil => rfl
  | cons character text =>
      simp only [uncased_cons, quotedName?, toLower_eq_backtick,
        takeWhile_uncased isNameCharacter_toLower, dropWhile_uncased isNameCharacter_toLower]
      generalize text.takeWhile isNameCharacter = name
      generalize text.dropWhile isNameCharacter = behind
      split
      · cases name with
        | nil => rfl
        | cons first more =>
            cases behind with
            | nil => rfl
            | cons closing after =>
                simp only [uncased_cons, toLower_eq_backtick]
                split <;> rfl
      · rfl

theorem firstName?_uncased (text : Text) :
    firstName? (uncased text) = (firstName? text).map uncased := by
  rw [firstName?, search?_uncased quotedName?_uncased, firstName?, Option.map_map, Option.map_map]
  rfl

theorem isWordCharacter?_map (previous : Option Char) :
    isWordCharacter? (previous.map Char.toLower) = isWordCharacter? previous := by
  cases previous with
  | none => rfl
  | some character => exact isWord_toLower character

theorem hasOwnWordAfter_uncased (choices : List Text) (previous : Option Char) (text : Text) :
    hasOwnWordAfter choices (previous.map Char.toLower) (uncased text) =
      hasOwnWordAfter choices previous text := by
  have own (letters text : Text) (previous : Option Char) :
      (ownWord? letters (previous.map Char.toLower) (uncased text)).isSome =
        (ownWord? letters previous text).isSome := by
    simp only [ownWord?, isWordCharacter?_map, word?_uncased]
    split
    · rfl
    · cases word? letters text with
      | none => rfl
      | some rest =>
          have head : (uncased rest).head? = rest.head?.map Char.toLower := List.head?_map
          simp only [Option.map_some, head, isWordCharacter?_map]
          split <;> rfl
  induction text generalizing previous with
  | nil => rfl
  | cons character text induction =>
      have here (letters : Text) := own letters (character :: text) previous
      have later := induction (some character)
      simp only [uncased_cons, Option.map_some] at here later
      simp only [uncased_cons, hasOwnWordAfter, here, later]

theorem mentionsKey_uncased (text : Text) : mentionsKey (uncased text) = mentionsKey text :=
  hasOwnWordAfter_uncased keyWords none text

theorem mentionsTimestamp_uncased (text : Text) :
    mentionsTimestamp (uncased text) = mentionsTimestamp text :=
  occurs_uncased (word?_uncased _) text

theorem mentionsUnsigned_uncased (text : Text) :
    mentionsUnsigned (uncased text) = mentionsUnsigned text :=
  occurs_uncased (word?_uncased _) text

/-! ## Masks -/

theorem closing?_uncased {quote : Char} (known : isQuote quote = true) : ∀ text : Text,
    closing? quote (uncased text) = closing? quote text
  | [] => rfl
  | [character] => by
      by_cases escape : character = '\\'
      · rw [escape]
        rfl
      · have escapeLower := mt (toLower_eq_backslash character).mp escape
        rw [uncased_cons, uncased_nil, closing?, closing?]
        · simp only [toLower_eq_quote known]
        · exact escape
        · exact escapeLower
  | character :: next :: rest => by
      have later := closing?_uncased known (next :: rest)
      have behind := closing?_uncased known rest
      by_cases escape : character = '\\'
      · rw [escape]
        exact congrArg (Option.map (· + 2)) behind
      · have escapeLower := mt (toLower_eq_backslash character).mp escape
        rw [uncased_cons] at later
        rw [uncased_cons, uncased_cons, closing?, closing?]
        · simp only [ne_eq, toLower_eq_quote known, later, behind]
        · exact escape
        · exact escapeLower

theorem literalLength?_uncased (text : Text) :
    literalLength? (uncased text) = literalLength? text := by
  cases text with
  | nil => rfl
  | cons character text =>
      simp only [uncased_cons, literalLength?, @toLower_eq_quote '\'' rfl,
        @toLower_eq_quote '"' rfl]
      split
      · rename_i opens
        have known : isQuote character = true := by
          rcases opens with rfl | rfl <;> rfl
        rw [toLower_of_isQuote known, closing?_uncased known]
      · rfl

theorem mask_uncased (text : Text) : mask (uncased text) = uncased (mask text) := by
  have masked : ∀ skipped, maskFrom skipped (uncased text) = uncased (maskFrom skipped text) := by
    induction text with
    | nil => intro skipped; rfl
    | cons character text induction =>
        intro skipped
        cases skipped with
        | succ remaining => exact induction remaining
        | zero =>
            have here := literalLength?_uncased (character :: text)
            simp only [uncased_cons] at here
            simp only [uncased_cons, maskFrom, here]
            split
            · rw [induction]
              rfl
            · rw [induction, uncased_cons]
  exact masked 0

end Sql

end SchemaSeed
