import SchemaSeed.Proofs.Column.Items
import SchemaSeed.Proofs.Sql.Pieces
import SchemaSeed.Proofs.Sql.Renaming

/-! Candidates and members of renamed text.  A scan goes through a quoted name without
taking note of its characters, in whatever mode it gets there, and no blank stands in one.
Renamed text therefore falls apart where the text did, into pieces that are renamed. -/

namespace SchemaSeed

namespace Sql

variable {known : Text → Prop} {newName : Text → Text} {before after : Text}

theorem quotedName?_of_shorter {character : Char} {front text : Text}
    (starts : front <+: text) (unnamed : quotedName? (character :: text) = none) :
    quotedName? (character :: front) = none := by
  rcases starts with ⟨rest, rfl⟩
  exact quotedName?_eq_none_of_append rest unnamed

theorem IsName.solid {name : Text} (proper : IsName name) :
    ∀ character ∈ backtick :: name ++ [backtick], Character.isBlank character = false := by
  intro character member
  rcases List.mem_append.mp member with front | last
  · rcases List.mem_cons.mp front with rfl | inside
    · decide
    · exact isBlank_of_isNameCharacter (proper.2 character inside)
  · rw [List.mem_singleton.mp last]
    decide

/-! ## Blanks -/

section Blanks

open Text

theorem Renamed.getLast? (renamed : Renamed known newName before after) :
    before.getLast? = after.getLast? := by
  induction renamed with
  | nil => rfl
  | name proper among image _ induction =>
      simp [List.getLast?_append, List.getLast?_cons, induction]
  | single unnamed _ induction => simp [List.getLast?_cons, induction]

theorem Renamed.eq_of_blank (renamed : Renamed known newName before after)
    (blank : ∀ character ∈ before, Character.isBlank character = true) : before = after := by
  induction renamed with
  | nil => rfl
  | name =>
      have opening := blank backtick List.mem_cons_self
      cases opening
  | single unnamed _ induction =>
      rw [List.forall_mem_cons] at blank
      rw [induction blank.2]

/-- Squeezing leaves solid text as it is. -/
theorem squeezed_solid_append {gap : Bool} {part text short : Text} (nonempty : part ≠ [])
    (solid : ∀ character ∈ part, Character.isBlank character = false) :
    Squeezed gap (part ++ text) short ↔
      ∃ rest, short = part ++ rest ∧ Squeezed false text rest := by
  induction part generalizing gap short with
  | nil => exact absurd rfl nonempty
  | cons character part induction =>
      rw [List.forall_mem_cons] at solid
      have first : Squeezed gap (character :: (part ++ text)) short ↔
          ∃ rest, short = character :: rest ∧ Squeezed false (part ++ text) rest := by
        constructor
        · intro squeezed
          cases squeezed with
          | done blank => simp [solid.1] at blank
          | solid _ later => exact ⟨_, rfl, later⟩
          | space blank | skipped blank => simp [solid.1] at blank
        · rintro ⟨rest, rfl, later⟩
          exact .solid solid.1 later
      rw [List.cons_append, first]
      cases part with
      | nil => rfl
      | cons next part =>
          have later (rest : Text) := @induction false rest (by simp) solid.2
          simp only [later]
          constructor
          · rintro ⟨_, rfl, rest, rfl, squeezed⟩
            exact ⟨rest, rfl, squeezed⟩
          · rintro ⟨rest, rfl, squeezed⟩
            exact ⟨_, rfl, rest, rfl, squeezed⟩

theorem Renamed.squeezed (renamed : Renamed known newName before after) {gap : Bool}
    {short : Text} (squeezed : Squeezed gap before short) :
    ∃ shortAfter, Squeezed gap after shortAfter ∧ Renamed known newName short shortAfter := by
  induction renamed generalizing gap short with
  | nil =>
      cases squeezed
      exact ⟨[], .done (by simp), .nil⟩
  | @name name rest restAfter proper among image later induction =>
      rw [quoted_append, squeezed_solid_append (by simp) proper.solid] at squeezed
      rcases squeezed with ⟨short, rfl, squeezed⟩
      rcases induction squeezed with ⟨shortAfter, squeezedAfter, renamed⟩
      refine ⟨backtick :: newName name ++ backtick :: shortAfter, ?_, ?_⟩
      · rw [quoted_append _ _ restAfter, quoted_append _ _ shortAfter,
          squeezed_solid_append (by simp) image.solid]
        exact ⟨shortAfter, rfl, squeezedAfter⟩
      · rw [← quoted_append]
        exact .name proper among image renamed
  | @single character rest restAfter unnamed later induction =>
      cases squeezed with
      | done blank =>
          rw [← (Renamed.single unnamed later).eq_of_blank blank]
          exact ⟨[], .done blank, .nil⟩
      | @solid _ _ _ short solid squeezed =>
          rcases induction squeezed with ⟨shortAfter, squeezedAfter, renamed⟩
          refine ⟨character :: shortAfter, .solid solid squeezedAfter, .single ?_ renamed⟩
          cases found : Sql.quotedName? (character :: short) with
          | none => rfl
          | some pair =>
              rcases quotedName?_squeezed squeezed found with ⟨_, named, -⟩
              rw [unnamed] at named
              cases named
      | space blank squeezed =>
          rcases induction squeezed with ⟨shortAfter, squeezedAfter, renamed⟩
          exact ⟨' ' :: shortAfter, .space blank squeezedAfter, .single rfl renamed⟩
      | skipped blank squeezed =>
          rcases induction squeezed with ⟨shortAfter, squeezedAfter, renamed⟩
          exact ⟨shortAfter, .skipped blank squeezedAfter, renamed⟩

theorem Renamed.collapse (renamed : Renamed known newName before after) :
    Renamed known newName before.collapse after.collapse := by
  rcases squeezed_collapse before with ⟨squeezed, ended⟩
  rcases renamed.squeezed squeezed with ⟨short, squeezedAfter, renamedShort⟩
  have endedShort : Ended short := by
    intro character last
    exact ended character (renamedShort.getLast?.trans last)
  rw [← squeezedAfter.unique (squeezed_collapse after).1 endedShort (squeezed_collapse after).2]
  exact renamedShort

theorem Renamed.trim {unwanted : Char → Bool} (wanted : unwanted backtick = false)
    (renamed : Renamed known newName before after) :
    Renamed known newName (Text.trim unwanted before) (Text.trim unwanted after) := by
  have back {before after : Text} (renamed : Renamed known newName before after) :
      Renamed known newName (before.rdropWhile unwanted) (after.rdropWhile unwanted) := by
    induction renamed with
    | nil => exact .nil
    | name proper among image _ induction =>
        rw [rdropWhile_append_cons wanted, rdropWhile_append_cons wanted]
        exact .name proper among image induction
    | @single character rest restAfter unnamed _ induction =>
        have same : rest.rdropWhile unwanted = [] ↔ restAfter.rdropWhile unwanted = [] := by
          rw [← List.isEmpty_iff, induction.isEmpty, List.isEmpty_iff]
        simp only [rdropWhile_cons, same]
        split
        · exact .nil
        · exact .single (quotedName?_of_shorter (List.rdropWhile_prefix _ rest) unnamed)
            induction
  exact back (renamed.takeWhile unwanted wanted).2

end Blanks

/-! ## Scans -/

section Scans

theorem ordinary_of_isNameCharacter {character : Char}
    (known : isNameCharacter character = true) :
    isQuote character = false ∧ character ≠ '(' ∧ character ≠ ')' ∧ character ≠ '\\' := by
  have different {other : Char} (foreign : isNameCharacter other = false) : character ≠ other :=
    ne_of_isNameCharacter known foreign
  refine ⟨?_, different (by decide), different (by decide), different (by decide)⟩
  simp [isQuote, different (show isNameCharacter '\'' = false by decide),
    different (show isNameCharacter '"' = false by decide),
    different (show isNameCharacter backtick = false by decide)]

theorem reads_step_backtick {scan : Scan} (reads : scan.Reads false) :
    (scan.step backtick).Reads true := by
  rcases scan with ⟨mode, depth⟩
  cases mode with
  | plain => exact reads_quoted (show isQuote backtick = true by decide) true depth
  | quoted quote escaped =>
      have opens := (reads quote escaped rfl).1
      cases escaped with
      | true => exact reads_quoted opens true depth
      | false =>
          by_cases closes : backtick = quote
          · rw [closes, step_close_quote opens]
            exact reads_plain true depth
          · rw [step_quoted closes (by decide)]
            exact reads_quoted opens true depth

theorem IsName.ne {name : Text} (proper : IsName name) {other : Char}
    (foreign : isNameCharacter other = false) (different : backtick ≠ other) :
    ∀ character ∈ backtick :: name ++ [backtick], character ≠ other := by
  intro character member
  rcases List.mem_append.mp member with front | last
  · rcases List.mem_cons.mp front with rfl | inside
    · exact different
    · exact ne_of_isNameCharacter (proper.2 character inside) foreign
  · rwa [List.mem_singleton.mp last]

theorem IsName.steady {name : Text} (proper : IsName name) (scan : Scan) :
    Steady scan (backtick :: name ++ [backtick]) :=
  steady_of_plain (fun character member =>
    ⟨proper.ne (by decide) (by decide) character member,
      proper.ne (by decide) (by decide) character member⟩) scan

theorem IsName.unbroken {name : Text} (proper : IsName name) (scan : Scan) :
    Unbroken "," scan (backtick :: name ++ [backtick]) :=
  unbroken_of_plain (proper.ne (by decide) (by decide)) scan

/-- Where a scan stands behind a quoted name. -/
def Scan.passName (scan : Scan) : Scan :=
  (scan.step backtick).step backtick

theorem Scan.Reads.passName {scan : Scan} (reads : scan.Reads false) :
    scan.passName.Reads false :=
  (reads.step _).step _

section Name

variable {scan : Scan} (reads : scan.Reads false) {name : Text} (proper : IsName name)

include reads proper

/-- What stands between the backticks has no say in it. -/
theorem run_quoted : scan.run (backtick :: name ++ [backtick]) = scan.passName := by
  have settled := reads_step_backtick reads
  have passed : ∀ text : Text, (∀ character ∈ text, isNameCharacter character = true) →
      (scan.step backtick).run text = scan.step backtick := by
    intro text known
    induction text with
    | nil => rfl
    | cons character text induction =>
        rw [List.forall_mem_cons] at known
        rw [Scan.run_cons, step_ordinary settled (ordinary_of_isNameCharacter known.1),
          induction known.2]
  rw [List.cons_append, Scan.run_cons, Scan.run_append, passed name proper.2]
  rfl

theorem depth_passName : scan.passName.depth = scan.depth := by
  rw [← run_quoted reads proper, (proper.steady scan).depth]

variable (rest : Text)

theorem run_name : scan.run (backtick :: name ++ backtick :: rest) = scan.passName.run rest := by
  rw [quoted_append, Scan.run_append, run_quoted reads proper]

theorem opened?_name (outside : scan.depth = 0) :
    opened? scan (backtick :: name ++ backtick :: rest) = opened? scan.passName rest := by
  rw [quoted_append, (proper.steady scan).opened?_append outside, run_quoted reads proper]

theorem unopened_name (outside : scan.depth = 0) :
    unopened scan (backtick :: name ++ backtick :: rest) =
      backtick :: name ++ backtick :: unopened scan.passName rest := by
  rw [quoted_append, (proper.steady scan).unopened_append outside, run_quoted reads proper,
    ← quoted_append]

theorem inside_name (within : scan.depth ≠ 0) :
    inside scan (backtick :: name ++ backtick :: rest) =
      backtick :: name ++ backtick :: inside scan.passName rest := by
  rw [quoted_append, (proper.steady scan).inside_append within, run_quoted reads proper,
    ← quoted_append]

theorem partsFrom_name :
    partsFrom "," scan (backtick :: name ++ backtick :: rest) =
      continued (backtick :: name ++ [backtick]) (partsFrom "," scan.passName rest) := by
  rw [quoted_append, (proper.unbroken scan).partsFrom_append, run_quoted reads proper]

end Name

section Renamed

variable {scan : Scan} (reads : scan.Reads false)

include reads

theorem Renamed.run (renamed : Renamed known newName before after) :
    scan.run before = scan.run after := by
  induction renamed generalizing scan with
  | nil => rfl
  | name proper among image _ induction =>
      rw [run_name reads proper, run_name reads image]
      exact induction reads.passName
  | single unnamed _ induction => exact induction (reads.step _)

theorem Renamed.opened? (renamed : Renamed known newName before after)
    (outside : scan.depth = 0) :
    Option.Rel (Renamed known newName) (Sql.opened? scan before) (Sql.opened? scan after) := by
  induction renamed generalizing scan with
  | nil => exact .none
  | name proper among image _ induction =>
      rw [opened?_name reads proper _ outside, opened?_name reads image _ outside]
      exact induction reads.passName ((depth_passName reads proper).trans outside)
  | single unnamed later induction =>
      simp only [Sql.opened?]
      split
      · exact induction (reads.step _) ‹_›
      · exact .some later

theorem Renamed.unopened (renamed : Renamed known newName before after)
    (outside : scan.depth = 0) :
    Renamed known newName (Sql.unopened scan before) (Sql.unopened scan after) := by
  induction renamed generalizing scan with
  | nil => exact .nil
  | name proper among image _ induction =>
      rw [unopened_name reads proper _ outside, unopened_name reads image _ outside]
      exact .name proper among image
        (induction reads.passName ((depth_passName reads proper).trans outside))
  | single unnamed later induction =>
      simp only [Sql.unopened]
      split
      · exact .single (quotedName?_of_shorter (unopened_isPrefix _ _) unnamed)
          (induction (reads.step _) ‹_›)
      · exact .nil

theorem Renamed.inside (renamed : Renamed known newName before after)
    (within : scan.depth ≠ 0) :
    Renamed known newName (Sql.inside scan before) (Sql.inside scan after) := by
  induction renamed generalizing scan with
  | nil => exact .nil
  | name proper among image _ induction =>
      rw [inside_name reads proper _ within, inside_name reads image _ within]
      exact .name proper among image
        (induction reads.passName ((depth_passName reads proper).symm ▸ within))
  | single unnamed later induction =>
      simp only [Sql.inside]
      split
      · exact .nil
      · exact .single (quotedName?_of_shorter (inside_isPrefix _ _) unnamed)
          (induction (reads.step _) ‹_›)

theorem Renamed.partsFrom (renamed : Renamed known newName before after) :
    List.Forall₂ (Renamed known newName) (Sql.partsFrom "," scan before)
      (Sql.partsFrom "," scan after) := by
  induction renamed generalizing scan with
  | nil => exact .cons .nil .nil
  | @name name rest restAfter proper among image _ induction =>
      have parts := induction reads.passName
      rw [partsFrom_name reads proper, partsFrom_name reads image]
      rcases exists_partsFrom scan.passName rest with ⟨first, others, shape, -⟩
      rw [shape] at parts ⊢
      rcases List.forall₂_cons_left_iff.mp parts with ⟨firstAfter, _, here, later, shapeAfter⟩
      rw [shapeAfter, continued, continued, ← quoted_append, ← quoted_append]
      exact .cons (.name proper among image here) later
  | @single character rest restAfter unnamed _ induction =>
      have parts := induction (reads.step character)
      rcases exists_partsFrom (scan.step character) rest with ⟨first, others, shape, front⟩
      cases separates : Parts.separates "," scan character with
      | true =>
          rw [step_of_separates separates] at parts
          rw [Sql.partsFrom, Sql.partsFrom, separates]
          exact .cons .nil parts
      | false =>
          rw [shape] at parts
          rcases List.forall₂_cons_left_iff.mp parts with ⟨firstAfter, _, here, later, shapeAfter⟩
          rw [Sql.partsFrom, Sql.partsFrom, separates, shape, shapeAfter]
          exact .cons (.single (quotedName?_of_shorter front unnamed) here) later

end Renamed

end Scans

/-! ## Pieces -/

theorem Renamed.content? (renamed : Renamed known newName before after) :
    Option.Rel (Option.Rel (Renamed known newName)) (Sql.content? before)
      (Sql.content? after) := by
  have start : Scan.start.Reads false := reads_plain false 0
  have within : Scan.Reads false ⟨.plain, 1⟩ := reads_plain false 1
  have opens := renamed.opened? start rfl
  simp only [Sql.content?, renamed.run start]
  generalize Sql.opened? Scan.start before = left at opens
  generalize Sql.opened? Scan.start after = right at opens
  cases opens with
  | none =>
      simp only
      split
      · exact .none
      · exact .some .none
  | some rest =>
      have insides := rest.inside within (by decide)
      simp only [insides.run within]
      split
      · exact .none
      · exact .some (.some insides)

theorem Renamed.pieces? (renamed : Renamed known newName before after) :
    Option.Rel (List.Forall₂ (Renamed known newName)) (Sql.pieces? before)
      (Sql.pieces? after) := by
  have start : Scan.start.Reads false := reads_plain false 0
  have contents := renamed.content?
  rw [Sql.pieces?, Sql.pieces?]
  generalize Sql.content? before = left at contents
  generalize Sql.content? after = right at contents
  cases contents with
  | none => exact .none
  | some content =>
      cases content with
      | none => exact .some (.cons renamed .nil)
      | some body => exact .some (.cons (renamed.unopened start rfl) (body.partsFrom start))

theorem renamed_tidied {pieces piecesAfter : List Text}
    (renamed : List.Forall₂ (Renamed known newName) pieces piecesAfter) :
    List.Forall₂ (Renamed known newName) (tidied pieces) (tidied piecesAfter) := by
  induction renamed with
  | nil => exact .nil
  | cons here _ induction =>
      simp only [tidied, List.map_cons, List.filter_cons, here.collapse.isEmpty]
      split
      · exact .cons here.collapse induction
      · exact induction

/-- The candidates of a renamed block are its candidates, renamed. -/
theorem Renamed.candidates (renamed : Renamed known newName before after)
    {found : List Text} (read : Sql.candidates before = .ok found) :
    ∃ foundAfter, Sql.candidates after = .ok foundAfter ∧
      List.Forall₂ (Renamed known newName) found foundAfter := by
  have pieces := renamed.pieces?
  cases cut : Sql.pieces? before with
  | none =>
      rcases candidates_of_pieces?_eq_none cut with ⟨quote, failed⟩
      rw [failed] at read
      cases read
  | some written =>
      rw [candidates_of_pieces?_eq_some cut] at read
      cases read
      cases cutAfter : Sql.pieces? after with
      | none => rw [cut, cutAfter] at pieces; cases pieces
      | some writtenAfter =>
          rw [cut, cutAfter] at pieces
          cases pieces with
          | some same =>
              exact ⟨tidied writtenAfter, candidates_of_pieces?_eq_some cutAfter,
                renamed_tidied same⟩

end Sql

end SchemaSeed
