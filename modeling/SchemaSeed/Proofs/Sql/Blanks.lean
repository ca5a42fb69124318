import SchemaSeed.Proofs.Sql.Grouping
import SchemaSeed.Proofs.Sql.Matching
import SchemaSeed.Proofs.Sql.Names
import SchemaSeed.Proofs.Sql.Parts
import SchemaSeed.Proofs.Text.Squeezed

/-! Blanks mean nothing to a scan, within quotes or without: a backslash takes at most one
of them along.  Lists and groups of squeezed text are therefore those of the text itself,
squeezed part by part. -/

namespace SchemaSeed

namespace Sql

open Text

/-! ## Scans and blanks -/

/-- A scan that was started outside of quotes stands in quotes of one of the known kinds.
After a blank, no backslash takes the next character along. -/
def Scan.Reads (gap : Bool) (scan : Scan) : Prop :=
  ∀ quote escaped, scan.mode = .quoted quote escaped →
    isQuote quote = true ∧ (gap = true → escaped = false)

theorem reads_plain (gap : Bool) (depth : Nat) : Scan.Reads gap ⟨.plain, depth⟩ := nofun

theorem reads_quoted {quote : Char} (known : isQuote quote = true) (gap : Bool) (depth : Nat) :
    Scan.Reads gap ⟨.quoted quote false, depth⟩ := by
  rintro _ _ ⟨⟩
  exact ⟨known, fun _ => rfl⟩

theorem Scan.Reads.weaken {gap : Bool} {scan : Scan} (reads : scan.Reads gap) :
    scan.Reads false :=
  fun quote escaped found => ⟨(reads quote escaped found).1, nofun⟩

theorem Scan.Reads.step {gap : Bool} {scan : Scan} (reads : scan.Reads gap) (character : Char) :
    (scan.step character).Reads false := by
  rcases scan with ⟨mode, depth⟩
  intro quote escaped found
  refine ⟨?_, nofun⟩
  cases mode with
  | quoted opening pending =>
      have known := (reads opening pending rfl).1
      cases pending with
      | true =>
          cases found
          exact known
      | false =>
          simp only [Scan.step, Mode.step] at found
          split at found
          · cases found
            exact known
          · split at found
            · cases found
            · cases found
              exact known
  | plain =>
      simp only [Scan.step, Mode.step] at found
      split at found
      · cases found
      · split at found
        · cases found
        · split at found
          · cases found
            assumption
          · cases found

/-- A character that means nothing to a scan leaves it as it is, in quotes or outside. -/
theorem step_ordinary {scan : Scan} (reads : scan.Reads true) {character : Char}
    (ordinary : isQuote character = false ∧ character ≠ '(' ∧ character ≠ ')' ∧
      character ≠ '\\') : scan.step character = scan := by
  rcases ordinary with ⟨unquoted, noOpening, noClosing, noEscape⟩
  rcases scan with ⟨mode, depth⟩
  cases mode with
  | plain => exact step_plain unquoted noOpening noClosing depth
  | quoted quote escaped =>
      rcases reads quote escaped rfl with ⟨known, settled⟩
      cases settled rfl
      refine step_quoted ?_ noEscape depth
      rintro rfl
      rw [unquoted] at known
      cases known

/-- The characters that a scan takes note of are none of them blank. -/
theorem ordinary_of_blank {character : Char} (blank : Character.isBlank character = true) :
    isQuote character = false ∧ character ≠ '(' ∧ character ≠ ')' ∧ character ≠ '\\' ∧
      character ≠ ',' := by
  have noted : ∀ other ∈ ['(', ')', '\\', ',', '\'', '"', backtick],
      Character.isBlank other = false := by decide
  have different {other : Char} (member : other ∈ ['(', ')', '\\', ',', '\'', '"', backtick]) :
      character ≠ other := by
    rintro rfl
    rw [noted character member] at blank
    cases blank
  refine ⟨?_, different (by decide), different (by decide), different (by decide),
    different (by decide)⟩
  simp [isQuote, different]

section Blank

variable {character : Char} (blank : Character.isBlank character = true)

include blank

theorem not_separates_of_blank (scan : Scan) : Parts.separates "," scan character = false := by
  have noComma := (ordinary_of_blank blank).2.2.2.2
  simp [Parts.separates, noComma.symm]

theorem step_blank {scan : Scan} (reads : scan.Reads true) : scan.step character = scan := by
  rcases ordinary_of_blank blank with ⟨unquoted, noOpening, noClosing, noEscape, -⟩
  exact step_ordinary reads ⟨unquoted, noOpening, noClosing, noEscape⟩

/-- Any blank does what any other does, and is read over at once. -/
theorem step_blank_reads {scan : Scan} (reads : scan.Reads false) :
    (scan.step character).Reads true ∧
      ∀ other, Character.isBlank other = true → scan.step other = scan.step character := by
  rcases scan with ⟨mode, depth⟩
  cases mode with
  | plain =>
      have plain := reads_plain true depth
      rw [step_blank blank plain]
      exact ⟨plain, fun other otherBlank => step_blank otherBlank plain⟩
  | quoted quote escaped =>
      have settled := reads_quoted (reads quote escaped rfl).1 true depth
      cases escaped with
      | true => exact ⟨settled, fun _ _ => rfl⟩
      | false =>
          rw [step_blank blank settled]
          exact ⟨settled, fun other otherBlank => step_blank otherBlank settled⟩

theorem depth_step_blank {scan : Scan} (reads : scan.Reads false) :
    (scan.step character).depth = scan.depth ∧
      (scan.step character).mode.quote? = scan.mode.quote? := by
  rcases scan with ⟨mode, depth⟩
  cases mode with
  | plain =>
      rw [step_blank blank (reads_plain true depth)]
      exact ⟨rfl, rfl⟩
  | quoted quote escaped =>
      cases escaped with
      | true => exact ⟨rfl, rfl⟩
      | false =>
          rw [step_blank blank (reads_quoted (reads quote false rfl).1 true depth)]
          exact ⟨rfl, rfl⟩

end Blank

section AllBlank

variable {text : Text} (blank : ∀ character ∈ text, Character.isBlank character = true)

include blank

theorem quote?_run_of_blank {scan : Scan} (reads : scan.Reads false) :
    (scan.run text).mode.quote? = scan.mode.quote? := by
  induction text generalizing scan with
  | nil => rfl
  | cons character text induction =>
      rw [List.forall_mem_cons] at blank
      rw [Scan.run_cons, induction blank.2 (reads.step character),
        (depth_step_blank blank.1 reads).2]

theorem unbroken_of_blank (scan : Scan) : Unbroken "," scan text := by
  induction text generalizing scan with
  | nil => exact .nil
  | cons character text induction =>
      rw [List.forall_mem_cons] at blank
      exact .cons (not_separates_of_blank blank.1 scan) (induction blank.2 _)

theorem inside_of_blank {scan : Scan} (reads : scan.Reads false) (within : scan.depth ≠ 0) :
    inside scan text = text := by
  induction text generalizing scan with
  | nil => rfl
  | cons character text induction =>
      rw [List.forall_mem_cons] at blank
      have depth := (depth_step_blank blank.1 reads).1
      rw [inside, depth, if_neg within, induction blank.2 (reads.step character)]
      rwa [depth]

end AllBlank

/-! ## Squeezed text -/

section Squeezed

variable {gap : Bool} {text short : Text} {scan : Scan}

theorem quote?_run_squeezed (squeezed : Squeezed gap text short) (reads : scan.Reads gap) :
    (scan.run text).mode.quote? = (scan.run short).mode.quote? := by
  induction squeezed generalizing scan with
  | done blank => exact quote?_run_of_blank blank reads.weaken
  | solid _ _ induction => exact induction (reads.step _)
  | space blank _ induction =>
      rcases step_blank_reads blank reads with ⟨settled, same⟩
      rw [Scan.run_cons, Scan.run_cons, same ' ' (by decide)]
      exact induction settled
  | skipped blank _ induction =>
      rw [Scan.run_cons, step_blank blank reads]
      exact induction reads

/-- The parts of squeezed text are the parts of the text, squeezed. -/
theorem partsFrom_squeezed (squeezed : Squeezed gap text short) (reads : scan.Reads gap) :
    ∃ first others firstShort othersShort,
      partsFrom "," scan text = first :: others ∧
      partsFrom "," scan short = firstShort :: othersShort ∧
      Squeezed gap first firstShort ∧ List.Forall₂ (Squeezed false) others othersShort := by
  induction squeezed generalizing scan with
  | @done _ text blank =>
      exact ⟨text, [], [], [], unbroken_of_blank blank scan, rfl, .done blank, .nil⟩
  | @solid _ character _ _ solid _ induction =>
      rcases induction (reads.step character) with
        ⟨first, others, firstShort, othersShort, parts, partsShort, start, later⟩
      cases separates : Parts.separates "," scan character with
      | true =>
          rw [step_of_separates separates] at parts partsShort
          refine ⟨[], first :: others, [], firstShort :: othersShort, ?_, ?_, .done (by simp),
            .cons start later⟩
          · rw [partsFrom, if_pos separates, parts]
          · rw [partsFrom, if_pos separates, partsShort]
      | false =>
          refine ⟨character :: first, others, character :: firstShort, othersShort, ?_, ?_,
            .solid solid start, later⟩
          · rw [partsFrom, separates, parts]
            rfl
          · rw [partsFrom, separates, partsShort]
            rfl
  | @space character _ _ blank _ induction =>
      rcases step_blank_reads blank reads with ⟨settled, same⟩
      rcases induction settled with
        ⟨first, others, firstShort, othersShort, parts, partsShort, start, later⟩
      refine ⟨character :: first, others, ' ' :: firstShort, othersShort, ?_, ?_,
        .space blank start, later⟩
      · rw [partsFrom, not_separates_of_blank blank, parts]
        rfl
      · rw [partsFrom, not_separates_of_blank (by decide), same ' ' (by decide), partsShort]
        rfl
  | @skipped character _ _ blank _ induction =>
      rcases induction reads with
        ⟨first, others, firstShort, othersShort, parts, partsShort, start, later⟩
      refine ⟨character :: first, others, firstShort, othersShort, ?_, partsShort,
        .skipped blank start, later⟩
      rw [partsFrom, not_separates_of_blank blank, step_blank blank reads, parts]
      rfl

theorem inside_squeezed (squeezed : Squeezed gap text short) (reads : scan.Reads gap)
    (within : scan.depth ≠ 0) : Squeezed gap (inside scan text) (inside scan short) := by
  induction squeezed generalizing scan with
  | done blank =>
      rw [inside_of_blank blank reads.weaken within]
      exact .done blank
  | @solid _ character _ _ solid _ induction =>
      simp only [inside]
      split
      · exact .done (by simp)
      · exact .solid solid (induction (reads.step character) ‹_›)
  | space blank _ induction =>
      rcases step_blank_reads blank reads with ⟨settled, same⟩
      have depth := (depth_step_blank blank reads).1
      simp only [inside, same ' ' (by decide), depth, within, if_false]
      exact .space blank (induction settled (by rwa [depth]))
  | skipped blank _ induction =>
      simp only [inside, step_blank blank reads, within, if_false]
      exact .skipped blank (induction reads within)

theorem opened?_squeezed (squeezed : Squeezed gap text short) (reads : scan.Reads gap)
    (outside : scan.depth = 0) {restShort : Text} (opens : opened? scan short = some restShort) :
    ∃ rest, opened? scan text = some rest ∧ Squeezed false rest restShort := by
  induction squeezed generalizing scan with
  | done blank => cases opens
  | @solid _ character text _ _ later induction =>
      simp only [opened?] at opens ⊢
      split at opens
      · rename_i still
        rw [if_pos still]
        exact induction (reads.step character) still opens
      · rename_i within
        rw [if_neg within]
        cases opens
        exact ⟨text, rfl, later⟩
  | space blank _ induction =>
      rcases step_blank_reads blank reads with ⟨settled, same⟩
      have depth := (depth_step_blank blank reads).1.trans outside
      simp only [opened?, same ' ' (by decide), depth, if_true] at opens ⊢
      exact induction settled depth opens
  | skipped blank _ induction =>
      simp only [opened?, step_blank blank reads, outside, if_true]
      exact induction reads outside opens

end Squeezed

/-! ## Searches in squeezed text -/

/-- The letters are none of them spelled by a blank. -/
def SolidLetters (letters : Text) : Prop :=
  ∀ letter ∈ letters, ∀ character, Character.isBlank character = true →
    Character.spells letter character = false

theorem solidLetters_of_codes {letters : Text}
    (foreign : ∀ letter ∈ letters, ∀ code ∈ Character.blankCodes,
      Character.spells letter (Char.ofNat code) = false) : SolidLetters letters := by
  intro letter member character blank
  have unspelled := foreign letter member _ (Character.toNat_mem_blankCodes blank)
  rwa [Char.ofNat_toNat] at unspelled

theorem skipBlanks_squeeze (gap : Bool) (text : Text) :
    Text.skipBlanks (squeeze gap text) = squeeze false (Text.skipBlanks text) := by
  have space : Character.isBlank ' ' = true := by decide
  simp only [Text.skipBlanks]
  induction text generalizing gap with
  | nil => rfl
  | cons character text induction =>
      cases blank : Character.isBlank character with
      | true =>
          rw [List.dropWhile_cons_of_pos blank, ← induction true, squeeze, if_pos blank]
          cases gap with
          | true => rfl
          | false => exact List.dropWhile_cons_of_pos space
      | false =>
          have solid : ¬ Character.isBlank character = true := by simp [blank]
          rw [squeeze_solid_cons blank, List.dropWhile_cons_of_neg solid,
            List.dropWhile_cons_of_neg solid, squeeze_solid_cons blank]

theorem word?_squeeze {letters : Text} (solid : SolidLetters letters) (text : Text) :
    word? letters (squeeze false text) = (word? letters text).map (squeeze false) := by
  induction letters generalizing text with
  | nil => rfl
  | cons letter letters induction =>
      rw [SolidLetters, List.forall_mem_cons] at solid
      cases text with
      | nil => rfl
      | cons character text =>
          cases blank : Character.isBlank character with
          | true =>
              simp only [squeeze, blank, if_true, Bool.false_eq_true, if_false, word?,
                solid.1 character blank, solid.1 ' ' (by decide), Option.map_none]
          | false =>
              rw [squeeze_solid_cons blank, word?, word?]
              split
              · exact induction solid.2 text
              · rfl

theorem blanks?_squeeze (text : Text) :
    blanks? (squeeze false text) = (blanks? text).map (squeeze false) := by
  cases text with
  | nil => rfl
  | cons character text =>
      cases blank : Character.isBlank character with
      | true =>
          have space : Character.isBlank ' ' = true := by decide
          simp only [squeeze, blank, if_true, Bool.false_eq_true, if_false, blanks?, space,
            Option.map_some, skipBlanks_squeeze]
      | false =>
          rw [squeeze_solid_cons blank]
          simp only [blanks?, blank, Bool.false_eq_true, if_false, Option.map_none]

theorem phrase?_squeeze {first second : Text} (solidFirst : SolidLetters first)
    (solidSecond : SolidLetters second) (text : Text) :
    phrase? first second (squeeze false text) =
      (phrase? first second text).map (squeeze false) := by
  simp only [phrase?, word?_squeeze solidFirst]
  cases word? first text with
  | none => rfl
  | some rest =>
      simp only [Option.map_some, Option.bind_some, blanks?_squeeze]
      cases blanks? rest with
      | none => rfl
      | some behind => exact word?_squeeze solidSecond behind

/-- A search finds something in squeezed text where it does in the text. -/
theorem occurs_squeeze {matcher : Text → Option Text}
    (squeezes : ∀ text, matcher (squeeze false text) = (matcher text).map (squeeze false))
    (solid : ∀ character rest, Character.isBlank character = true →
      matcher (character :: rest) = none) (gap : Bool) (text : Text) :
    occurs matcher (squeeze gap text) = occurs matcher text := by
  have cons (character : Char) (rest : Text) : occurs matcher (character :: rest) =
      ((matcher (character :: rest)).isSome || occurs matcher rest) := by
    rw [occurs, search?, Option.isSome_or, occurs]
  induction text generalizing gap with
  | nil => rfl
  | cons character text induction =>
      cases blank : Character.isBlank character with
      | true =>
          have unmatched := solid character text blank
          cases gap with
          | true =>
              rw [cons, unmatched, squeeze, if_pos blank, if_pos rfl, induction]
              rfl
          | false =>
              have space := solid ' ' (squeeze true text) (by decide)
              rw [cons, unmatched, squeeze, if_pos blank, if_neg Bool.false_ne_true, cons, space,
                induction]
      | false =>
          have here := squeezes (character :: text)
          rw [squeeze_solid_cons blank] at here ⊢
          rw [cons, cons, here, Option.isSome_map, induction]

end Sql

end SchemaSeed
