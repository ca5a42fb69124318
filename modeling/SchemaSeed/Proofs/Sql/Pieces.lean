import SchemaSeed.Column.Classify
import SchemaSeed.Proofs.Sql.Candidate
import SchemaSeed.Proofs.Sql.Grouping
import SchemaSeed.Proofs.Sql.Parts

/-! Candidates and members without positions.  What stands in the first parentheses of a
text is a function of the text alone, or refused if the text that was read for it ends inside
quotes.  The pieces of a block and the members of an enumeration are made of it. -/

namespace SchemaSeed

namespace Sql

/-! ## The mode of a scan -/

theorem mode_step_eq {first second : Scan} (same : first.mode = second.mode) (character : Char) :
    (first.step character).mode = (second.step character).mode := by
  rcases first with ⟨mode, _⟩
  rcases second with ⟨_, _⟩
  cases same
  cases mode with
  | quoted quote escaped => rfl
  | plain =>
      simp only [Scan.step]
      split
      · rfl
      · split <;> rfl

/-- Parentheses have no say in what is quoted. -/
theorem mode_run_eq {first second : Scan} (same : first.mode = second.mode) (text : Text) :
    (first.run text).mode = (second.run text).mode := by
  induction text generalizing first second with
  | nil => exact same
  | cons character text induction => exact induction (mode_step_eq same character)

/-! ## Text without parentheses -/

theorem steady_of_plain {text : Text}
    (plain : ∀ character ∈ text, character ≠ '(' ∧ character ≠ ')') (scan : Scan) :
    Steady scan text := by
  induction text generalizing scan with
  | nil => trivial
  | cons character text induction =>
      rw [List.forall_mem_cons] at plain
      refine ⟨?_, induction plain.2 _⟩
      rcases scan with ⟨mode, depth⟩
      cases mode with
      | quoted => rfl
      | plain => simp only [Scan.step, plain.1.1, plain.1.2, if_false]

theorem unbroken_of_plain {text : Text} (plain : ∀ character ∈ text, character ≠ ',')
    (scan : Scan) : Unbroken "," scan text := by
  induction text generalizing scan with
  | nil => exact .nil
  | cons character text induction =>
      rw [List.forall_mem_cons] at plain
      exact .cons (by simp [Parts.separates, plain.1.symm]) (induction plain.2 _)

/-! ## What stands in parentheses -/

/-- What stands in front of the first opening parenthesis. -/
def unopened (scan : Scan) : Text → Text
  | [] => []
  | character :: rest =>
      if (scan.step character).depth = 0 then character :: unopened (scan.step character) rest
      else []

theorem unopened_append {scan : Scan} (outside : scan.depth = 0) {text rest : Text}
    (opens : opened? scan text = some rest) : text = unopened scan text ++ '(' :: rest := by
  induction text generalizing scan with
  | nil => cases opens
  | cons character text induction =>
      simp only [opened?, unopened] at opens ⊢
      split
      · rename_i still
        rw [if_pos still] at opens
        rw [List.cons_append, ← induction still opens]
      · rename_i within
        rw [if_neg within] at opens
        cases opens
        rw [(step_opens outside within).1]
        rfl

theorem unopened_isPrefix (scan : Scan) (text : Text) : unopened scan text <+: text := by
  induction text generalizing scan with
  | nil => exact List.prefix_rfl
  | cons character rest induction =>
      simp only [unopened]
      split
      · exact List.cons_prefix_cons.mpr ⟨rfl, induction _⟩
      · exact List.nil_prefix

namespace Steady

variable {scan : Scan} {text : Text} (steady : Steady scan text)

include steady

theorem depth : (scan.run text).depth = scan.depth := by
  induction text generalizing scan with
  | nil => rfl
  | cons character text induction => exact (induction steady.2).trans steady.1

theorem opened?_append (outside : scan.depth = 0) (rest : Text) :
    opened? scan (text ++ rest) = opened? (scan.run text) rest := by
  induction text generalizing scan with
  | nil => rfl
  | cons character text induction =>
      have still := steady.1.trans outside
      rw [List.cons_append, opened?, if_pos still]
      exact induction steady.2 still

theorem unopened_append (outside : scan.depth = 0) (rest : Text) :
    unopened scan (text ++ rest) = text ++ unopened (scan.run text) rest := by
  induction text generalizing scan with
  | nil => rfl
  | cons character text induction =>
      have still := steady.1.trans outside
      rw [List.cons_append, unopened, if_pos still, induction steady.2 still]
      rfl

theorem inside_append (within : scan.depth ≠ 0) (rest : Text) :
    inside scan (text ++ rest) = text ++ inside (scan.run text) rest := by
  induction text generalizing scan with
  | nil => rfl
  | cons character text induction =>
      have still : (scan.step character).depth ≠ 0 := by rwa [steady.1]
      rw [List.cons_append, inside, if_neg still, induction steady.2 still]
      rfl

end Steady

/-- The text in the first parentheses of a text that does not end inside quotes. -/
def content? (text : Text) : Option (Option Text) :=
  match opened? Scan.start text with
  | none =>
      match (Scan.start.run text).mode.quote? with
      | some _ => none
      | none => some none
  | some rest =>
      match (Scan.run ⟨.plain, 1⟩ (inside ⟨.plain, 1⟩ rest)).mode.quote? with
      | some _ => none
      | none => some (some (inside ⟨.plain, 1⟩ rest))

section FindGroup

variable {text : Text} {start : Nat}

theorem findGroup_of_content?_eq_none (refused : content? (text.drop start) = none) :
    ∃ quote, findGroup text start = .error (.unterminatedQuote quote text) := by
  have outside : Scan.start.depth = 0 := rfl
  rw [content?] at refused
  rcases searchFrom_opened outside start (text.drop start) with
    ⟨nowhere, searched⟩ | ⟨lead, rest, opens, -, searched⟩
  · cases still : (Scan.start.run (text.drop start)).mode.quote? with
    | none => simp [nowhere, still] at refused
    | some quote => exact ⟨quote, by simp only [findGroup, searched, still]⟩
  · rw [searchFrom_inside (by decide)] at searched
    cases still : (Scan.run ⟨.plain, 1⟩ (inside ⟨.plain, 1⟩ rest)).mode.quote? with
    | none => simp [opens, still] at refused
    | some quote => exact ⟨quote, by simp only [findGroup, searched, still]⟩

theorem findGroup_of_content?_eq_absent (absent : content? (text.drop start) = some none) :
    findGroup text start = .ok none := by
  have outside : Scan.start.depth = 0 := rfl
  rw [content?] at absent
  rcases searchFrom_opened outside start (text.drop start) with
    ⟨nowhere, searched⟩ | ⟨lead, rest, opens, -, -⟩
  · cases still : (Scan.start.run (text.drop start)).mode.quote? with
    | none => simp only [findGroup, searched, still]
    | some quote => simp [nowhere, still] at absent
  · cases still : (Scan.run ⟨.plain, 1⟩ (inside ⟨.plain, 1⟩ rest)).mode.quote? <;>
      simp [opens, still] at absent

theorem findGroup_of_content?_eq_some {content : Text}
    (found : content? (text.drop start) = some (some content)) :
    ∃ group, findGroup text start = .ok (some group) ∧
      text.take group.opening = text.take start ++ unopened Scan.start (text.drop start) ∧
      text.slice (group.opening + 1) group.closing = content ∧
      (Scan.start.run content).mode.quote? = none := by
  have outside : Scan.start.depth = 0 := rfl
  rw [content?] at found
  rcases searchFrom_opened outside start (text.drop start) with
    ⟨nowhere, -⟩ | ⟨lead, rest, opens, shape, searched⟩
  · cases still : (Scan.start.run (text.drop start)).mode.quote? <;>
      simp [nowhere, still] at found
  · rw [searchFrom_inside (by decide)] at searched
    have front : unopened Scan.start (text.drop start) = lead :=
      List.append_cancel_right ((unopened_append outside opens).symm.trans shape)
    cases still : (Scan.run ⟨.plain, 1⟩ (inside ⟨.plain, 1⟩ rest)).mode.quote? with
    | some quote => simp [opens, still] at found
    | none =>
        simp only [opens, still, Option.some.injEq] at found
        subst found
        refine ⟨⟨start + lead.length, start + lead.length + 1 + (inside ⟨.plain, 1⟩ rest).length⟩,
          by simp only [findGroup, searched, still], ?_,
          slice_of_drop shape (inside_isPrefix _ _), ?_⟩
        · rw [front, List.take_add, shape, List.take_left]
        · have same : Scan.start.mode = (Scan.mk .plain 1).mode := rfl
          rw [mode_run_eq same, still]

end FindGroup

theorem splitTop_of_closed {text : Text} (closed : (Scan.start.run text).mode.quote? = none) :
    splitTop "," text = .ok (partsFrom "," Scan.start text) := by
  rw [splitTop_eq, closed]

theorem exists_partsFrom (scan : Scan) (text : Text) :
    ∃ first others, partsFrom "," scan text = first :: others ∧ first <+: text := by
  rcases List.exists_cons_of_ne_nil (partsFrom_ne_nil "," scan text) with ⟨first, others, parts⟩
  exact ⟨first, others, parts, (partsFrom_eq_cons parts).1⟩

/-! ## Blocks -/

/-- The head of a block, and what stands between the commas of its body. -/
def pieces? (block : Text) : Option (List Text) :=
  (content? block).map fun content =>
    match content with
    | none => [block]
    | some body => unopened Scan.start block :: partsFrom "," Scan.start body

theorem candidates_of_pieces?_eq_none {block : Text} (refused : pieces? block = none) :
    ∃ quote, candidates block = .error (.unterminatedQuote quote block) := by
  rw [pieces?, Option.map_eq_none_iff, ← List.drop_zero (l := block)] at refused
  rcases findGroup_of_content?_eq_none refused with ⟨quote, failed⟩
  exact ⟨quote, by simp only [candidates, failed]⟩

theorem candidates_of_pieces?_eq_some {block : Text} {pieces : List Text}
    (found : pieces? block = some pieces) : candidates block = .ok (tidied pieces) := by
  rcases Option.map_eq_some_iff.mp found with ⟨content, known, rfl⟩
  rw [← List.drop_zero (l := block)] at known
  cases content with
  | none => simp only [candidates, findGroup_of_content?_eq_absent known]
  | some body =>
      rcases findGroup_of_content?_eq_some known with ⟨group, grouped, front, slice, closed⟩
      simp only [List.take_zero, List.nil_append, List.drop_zero] at front
      simp only [candidates, grouped, slice, splitTop_of_closed closed, front]

end Sql

/-! ## Members -/

namespace Column

/-- The members between the first parentheses of a text. -/
def members? (text : Text) : Option (List Text) :=
  (Sql.content? text).map fun content =>
    match content with
    | none => []
    | some inside =>
        if inside.strip.isEmpty then []
        else (Sql.partsFrom "," Sql.Scan.start inside).map member

theorem membersFrom_of_members?_eq_none {declaration : Text} {start : Nat}
    (refused : members? (declaration.drop start) = none) :
    ∃ quote, membersFrom declaration start = .error (.unterminatedQuote quote declaration) := by
  rw [members?, Option.map_eq_none_iff] at refused
  rcases Sql.findGroup_of_content?_eq_none refused with ⟨quote, failed⟩
  exact ⟨quote, by simp only [membersFrom, failed]⟩

theorem membersFrom_of_members?_eq_some {declaration : Text} {start : Nat} {members : List Text}
    (found : members? (declaration.drop start) = some members) :
    membersFrom declaration start = .ok members := by
  rcases Option.map_eq_some_iff.mp found with ⟨content, known, rfl⟩
  cases content with
  | none => simp only [membersFrom, Sql.findGroup_of_content?_eq_absent known]
  | some inside =>
      rcases Sql.findGroup_of_content?_eq_some known with ⟨group, grouped, -, slice, closed⟩
      simp only [membersFrom, grouped, slice]
      split
      · rfl
      · rw [Sql.splitTop_of_closed closed]
        rfl

end Column

end SchemaSeed
