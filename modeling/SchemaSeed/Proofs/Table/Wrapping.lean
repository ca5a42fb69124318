import SchemaSeed.Proofs.Sql.Blanks
import SchemaSeed.Proofs.Sql.Pieces
import SchemaSeed.Table.Reading

/-! How a block is wrapped into lines.  Whatever blanks stand between its words, a block has
the same candidates and is read as the same table, or it is refused with the same words. -/

namespace SchemaSeed

/-- What is seen of a fault: its label, its sentence and the table it names. -/
def Fault.shown (fault : Fault) : Text × Text × Option Text :=
  (fault.label, fault.message, fault.table?)

/-- The message about an open quote shows its text collapsed. -/
theorem Fault.shown_of_collapsed (quote : Char) (text : Text) :
    (Fault.unterminatedQuote quote text.collapse).shown =
      (Fault.unterminatedQuote quote text).shown := by
  have message : (Fault.unterminatedQuote quote text.collapse).message =
      (Fault.unterminatedQuote quote text).message :=
    congrArg (fun collapsed => "Unterminated " ++ [quote] ++ " quote in: " ++ excerpt collapsed)
      (Text.collapse_collapse text)
  rw [shown, message]
  rfl

namespace Sql

open Text

/-! ## Refused blocks -/

/-- The quote that is still open where the reading of a block ends. -/
def openQuote? (block : Text) : Option Char :=
  match opened? Scan.start block with
  | none => (Scan.start.run block).mode.quote?
  | some rest => (Scan.run ⟨.plain, 1⟩ (inside ⟨.plain, 1⟩ rest)).mode.quote?

theorem candidates_of_openQuote? {block : Text} {quote : Char}
    (still : openQuote? block = some quote) :
    candidates block = .error (.unterminatedQuote quote block) := by
  have outside : Scan.start.depth = 0 := rfl
  rw [openQuote?] at still
  rcases searchFrom_opened outside 0 block with
    ⟨nowhere, searched⟩ | ⟨lead, rest, opens, -, searched⟩
  · simp only [nowhere] at still
    simp only [candidates, findGroup, List.drop_zero, searched, still]
  · simp only [opens] at still
    rw [searchFrom_inside (by decide), still] at searched
    simp only [candidates, findGroup, List.drop_zero, searched]

theorem pieces?_of_closed {block : Text} (closed : openQuote? block = none) :
    pieces? block = some
      (match opened? Scan.start block with
        | none => [block]
        | some rest =>
            unopened Scan.start block :: partsFrom "," Scan.start (inside ⟨.plain, 1⟩ rest)) := by
  rw [openQuote?] at closed
  rw [pieces?, content?]
  cases opens : opened? Scan.start block with
  | none =>
      simp only [opens] at closed
      simp only [closed, Option.map_some]
  | some rest =>
      simp only [opens] at closed
      simp only [closed, Option.map_some]

/-! ## Squeezed blocks -/

section Squeezed

variable {gap : Bool} {text short : Text} {scan : Scan}

theorem isSome_opened?_squeezed (squeezed : Squeezed gap text short) (reads : scan.Reads gap)
    (outside : scan.depth = 0) :
    (opened? scan text).isSome = (opened? scan short).isSome := by
  induction squeezed generalizing scan with
  | done blank =>
      have steady := steady_of_plain (fun character member =>
        have ordinary := ordinary_of_blank (blank character member)
        ⟨ordinary.2.1, ordinary.2.2.1⟩) scan
      have none := steady.opened?_append outside []
      rw [List.append_nil] at none
      rw [none]
      rfl
  | @solid _ character _ _ _ _ induction =>
      simp only [opened?]
      split
      · exact induction (reads.step character) ‹_›
      · rfl
  | space blank _ induction =>
      rcases step_blank_reads blank reads with ⟨settled, same⟩
      have depth := (depth_step_blank blank reads).1.trans outside
      simp only [opened?, same ' ' (by decide), depth, if_true]
      exact induction settled depth
  | skipped blank _ induction =>
      simp only [opened?, step_blank blank reads, outside, if_true]
      exact induction reads outside

theorem unopened_squeezed (squeezed : Squeezed gap text short) (reads : scan.Reads gap)
    (outside : scan.depth = 0) :
    Squeezed gap (unopened scan text) (unopened scan short) := by
  induction squeezed generalizing scan with
  | @done _ text blank =>
      have front := (unopened_isPrefix scan text).subset
      exact .done fun character member => blank character (front member)
  | @solid _ character _ _ solid _ induction =>
      simp only [unopened]
      split
      · exact .solid solid (induction (reads.step character) ‹_›)
      · exact .done (by simp)
  | space blank _ induction =>
      rcases step_blank_reads blank reads with ⟨settled, same⟩
      have depth := (depth_step_blank blank reads).1.trans outside
      simp only [unopened, same ' ' (by decide), depth, if_true]
      exact .space blank (induction settled depth)
  | skipped blank _ induction =>
      simp only [unopened, step_blank blank reads, outside, if_true]
      exact .skipped blank (induction reads outside)

theorem openQuote?_squeezed (squeezed : Squeezed true text short) :
    openQuote? text = openQuote? short := by
  have outside : Scan.start.depth = 0 := rfl
  have known := isSome_opened?_squeezed squeezed (reads_plain true 0) outside
  rw [openQuote?, openQuote?]
  cases opens : opened? Scan.start short with
  | none =>
      rw [show opened? ⟨.plain, 0⟩ short = none from opens, Option.isSome_none,
        Option.isSome_eq_false_iff, Option.isNone_iff_eq_none] at known
      rw [show opened? Scan.start text = none from known]
      exact quote?_run_squeezed squeezed (reads_plain true 0)
  | some restShort =>
      rcases opened?_squeezed squeezed (reads_plain true 0) outside opens with
        ⟨rest, opensText, later⟩
      rw [show opened? Scan.start text = some rest from opensText]
      have within := inside_squeezed later (reads_plain false 1) Nat.one_ne_zero
      exact quote?_run_squeezed within (reads_plain false 1)

/-- The pieces of a squeezed block are those of the block, once they are tidied. -/
theorem tidied_squeezed (squeezed : Squeezed true text short) (closed : openQuote? short = none) :
    (pieces? text).map tidied = (pieces? short).map tidied := by
  have outside : Scan.start.depth = 0 := rfl
  have known := isSome_opened?_squeezed squeezed (reads_plain true 0) outside
  rw [pieces?_of_closed closed, pieces?_of_closed ((openQuote?_squeezed squeezed).trans closed),
    Option.map_some, Option.map_some, Option.some_inj]
  -- Pieces that were squeezed collapse to the same text.
  have tidy {pieces shortPieces : List Text}
      (same : pieces.map collapse = shortPieces.map collapse) :
      tidied pieces = tidied shortPieces := by
    rw [tidied, tidied, same]
  apply tidy
  cases opens : opened? Scan.start short with
  | none =>
      rw [show opened? ⟨.plain, 0⟩ short = none from opens, Option.isSome_none,
        Option.isSome_eq_false_iff, Option.isNone_iff_eq_none] at known
      rw [show opened? Scan.start text = none from known]
      exact congrArg (fun collapsed => [collapsed]) squeezed.collapse_eq.symm
  | some restShort =>
      rcases opened?_squeezed squeezed (reads_plain true 0) outside opens with
        ⟨rest, opensText, later⟩
      rw [show opened? Scan.start text = some rest from opensText]
      have head := unopened_squeezed squeezed (reads_plain true 0) outside
      have within := inside_squeezed later (reads_plain false 1) Nat.one_ne_zero
      rcases partsFrom_squeezed within (reads_plain false 0) with
        ⟨first, others, firstShort, othersShort, parts, partsShort, start, rests⟩
      have same : others.map collapse = othersShort.map collapse := by
        rw [← List.forall₂_eq_eq_eq, List.forall₂_map_left_iff, List.forall₂_map_right_iff]
        exact rests.imp fun _ _ squeezed => squeezed.collapse_eq.symm
      have partsText : partsFrom "," Scan.start (inside ⟨.plain, 1⟩ rest) = first :: others := parts
      have partsRest : partsFrom "," Scan.start (inside ⟨.plain, 1⟩ restShort) =
          firstShort :: othersShort := partsShort
      simp only [partsText, partsRest, List.map_cons, same, start.collapse_eq]
      rw [show unopened Scan.start short = unopened ⟨.plain, 0⟩ short from rfl, head.collapse_eq]
      rfl

end Squeezed

/-- A block that is collapsed has the candidates of the block, or is refused as the block is. -/
theorem candidates_collapse (block : Text) :
    (candidates block.collapse).mapError Fault.shown = (candidates block).mapError Fault.shown := by
  have squeezed := (squeezed_collapse block).1
  have same := openQuote?_squeezed squeezed
  cases closed : openQuote? block.collapse with
  | some quote =>
      rw [candidates_of_openQuote? closed, candidates_of_openQuote? (same.trans closed)]
      exact congrArg Except.error (Fault.shown_of_collapsed quote block)
  | none =>
      have pieces := tidied_squeezed squeezed closed
      rw [pieces?_of_closed closed, pieces?_of_closed (same.trans closed), Option.map_some,
        Option.map_some, Option.some_inj] at pieces
      rw [candidates_of_pieces?_eq_some (pieces?_of_closed closed),
        candidates_of_pieces?_eq_some (pieces?_of_closed (same.trans closed)), pieces]

end Sql

/-! ## Blocks with the same words -/

namespace Table

open Sql

theorem parse_collapse (block : Text) :
    (parse block.collapse).mapError Fault.shown = (parse block).mapError Fault.shown := by
  have same := candidates_collapse block
  rw [parse, parse, Reading.ofBlock, Reading.ofBlock]
  cases found : candidates block with
  | error fault =>
      cases foundCollapsed : candidates block.collapse with
      | error other =>
          rw [found, foundCollapsed] at same
          exact congrArg Except.error (Except.error.inj same)
      | ok candidates =>
          rw [found, foundCollapsed] at same
          cases same
  | ok listed =>
      cases foundCollapsed : candidates block.collapse with
      | error other =>
          rw [found, foundCollapsed] at same
          cases same
      | ok others =>
          rw [found, foundCollapsed] at same
          cases same
          rfl

/-- A block has the candidates of its collapsed text, or is refused with the same words; and
so it is with any two blocks that have the same words between their blanks, which are also
read as the same table, or fail alike. -/
theorem wrapping_is_free (block : Text) :
    (candidates block).mapError Fault.shown = (candidates block.collapse).mapError Fault.shown ∧
    (∀ fault, candidates block = .error fault → fault.label = "SchemaParseError") ∧
    ∀ other : Text, other.words = block.words →
      (candidates other).mapError Fault.shown = (candidates block).mapError Fault.shown ∧
      (parse other).mapError Fault.shown = (parse block).mapError Fault.shown := by
  refine ⟨(candidates_collapse block).symm, fun fault refused => ?_, fun other sameWords => ?_⟩
  · rcases fault_of_candidates refused with ⟨quote, text, -, rfl⟩
    rfl
  · have collapsed : other.collapse = block.collapse := by
      rw [Text.collapse, Text.collapse, sameWords]
    constructor
    · rw [← candidates_collapse other, collapsed, candidates_collapse]
    · rw [← parse_collapse other, collapsed, parse_collapse]

/-- The same words on one line and on several, with a blank behind a backslash. -/
theorem wrapped_block_reads_alike :
    let block : Text := "CREATE TABLE `t` (`id` INT, `e` ENUM('a\\ ' , 'b  c'), PRIMARY KEY (`id`))"
    let other : Text :=
      "\nCREATE\tTABLE `t`\n(`id` INT,\r\n\t`e` ENUM('a\\\n'\t,\n'b\nc'),\nPRIMARY  KEY (`id`))\n"
    other.words = block.words ∧
      (candidates other).mapError Fault.shown = (candidates block).mapError Fault.shown ∧
      (parse other).mapError Fault.shown = (parse block).mapError Fault.shown := by
  intro block other
  have sameWords : other.words = block.words := by decide
  exact ⟨sameWords, (wrapping_is_free block).2.2 other sameWords⟩

end Table

end SchemaSeed
