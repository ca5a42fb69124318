import SchemaSeed.Proofs.Sql.Parts

/-! Splitting a list and joining its parts undo each other.  A text comes apart in just one
way: each part reaches to the first separator that stands outside of its quotes and
parentheses, and the next part starts behind it with a fresh scan. -/

namespace SchemaSeed

namespace Sql

/-! ## Parts as a relation -/

/-- The parts of a text.  All but the last end in front of a separator. -/
inductive Separated (separator : Text) : Text → List Text → Prop
  | last {text : Text} (unbroken : Unbroken separator Scan.start text) :
      Separated separator text [text]
  | cons {part rest : Text} {mark : Char} {parts : List Text}
      (unbroken : Unbroken separator Scan.start part)
      (separates : Parts.separates separator (Scan.start.run part) mark = true)
      (later : Separated separator rest parts) :
      Separated separator (part ++ mark :: rest) (part :: parts)

theorem eq_of_separates {separator : Text} {scan : Scan} {mark : Char}
    (separates : Parts.separates separator scan mark = true) :
    scan = Scan.start ∧ separator = [mark] := by
  rcases scan with ⟨mode, depth⟩
  simp only [Parts.separates, Scan.isTop, Bool.and_eq_true, beq_iff_eq] at separates
  rcases separates with ⟨⟨⟨⟨rfl, rfl⟩, same⟩, -⟩, -⟩
  exact ⟨rfl, same⟩

theorem unbroken_or_exists_mark (separator : Text) (scan : Scan) (text : Text) :
    Unbroken separator scan text ∨
      ∃ part mark rest, text = part ++ mark :: rest ∧ Unbroken separator scan part ∧
        Parts.separates separator (scan.run part) mark = true := by
  induction text generalizing scan with
  | nil => exact .inl .nil
  | cons character text induction =>
      cases separates : Parts.separates separator scan character with
      | true => exact .inr ⟨[], character, text, rfl, .nil, separates⟩
      | false =>
          rcases induction (scan.step character) with whole | ⟨part, mark, rest, rfl, whole, found⟩
          · exact .inl (.cons separates whole)
          · exact .inr ⟨character :: part, mark, rest, rfl, .cons separates whole, found⟩

theorem Separated.partsFrom_eq {separator text : Text} {parts : List Text}
    (separated : Separated separator text parts) :
    partsFrom separator Scan.start text = parts := by
  induction separated with
  | last unbroken => exact unbroken
  | @cons part rest mark parts unbroken separates _ induction =>
      rcases eq_of_separates separates with ⟨returns, -⟩
      rw [returns] at separates
      rw [unbroken.partsFrom_append, returns, partsFrom, if_pos separates, induction]
      simp [continued]

theorem exists_separated (separator text : Text) : ∃ parts, Separated separator text parts := by
  rcases unbroken_or_exists_mark separator Scan.start text with
    whole | ⟨part, mark, rest, shape, whole, separates⟩
  · exact ⟨[text], .last whole⟩
  · have shorter : rest.length < text.length := by
      rw [shape, List.length_append, List.length_cons]
      omega
    rcases exists_separated separator rest with ⟨parts, later⟩
    exact ⟨part :: parts, shape ▸ .cons whole separates later⟩
termination_by text.length

theorem separated_iff {separator text : Text} {parts : List Text} :
    Separated separator text parts ↔ partsFrom separator Scan.start text = parts := by
  refine ⟨Separated.partsFrom_eq, ?_⟩
  rintro rfl
  rcases exists_separated separator text with ⟨parts, separated⟩
  rwa [separated.partsFrom_eq]

namespace Separated

variable {separator text : Text} {parts : List Text}

theorem join_eq (separated : Separated separator text parts) :
    Text.join separator parts = text := by
  induction separated with
  | last => exact Text.join_singleton _ _
  | @cons part rest mark parts _ separates later induction =>
      rcases eq_of_separates separates with ⟨-, same⟩
      cases later with
      | last | cons =>
          rw [Text.join_cons_cons, induction, same, List.append_assoc, List.singleton_append]

/-- Nothing separates in a part, and the scan of it leaves its quotes. -/
theorem splitTop_part (separated : Separated separator text parts)
    (closed : (Scan.start.run text).mode.quote? = none) {part : Text} (member : part ∈ parts) :
    splitTop separator part = .ok [part] := by
  have alone {part : Text} (unbroken : Unbroken separator Scan.start part)
      (outside : (Scan.start.run part).mode.quote? = none) :
      splitTop separator part = .ok [part] := by
    rw [splitTop_eq, outside, unbroken]
  induction separated with
  | last unbroken =>
      rw [List.mem_singleton] at member
      subst member
      exact alone unbroken closed
  | @cons front rest mark parts unbroken separates later induction =>
      rcases eq_of_separates separates with ⟨returns, -⟩
      have step := step_of_separates separates
      rcases List.mem_cons.mp member with rfl | among
      · exact alone unbroken (by rw [returns]; rfl)
      · refine induction ?_ among
        rwa [Scan.run_append, Scan.run_cons, step, returns] at closed

end Separated

/-! ## Lists that survive being joined -/

/-- Parts that a mark keeps apart: each of them closes its quotes and holds the mark only
inside of quotes or parentheses, and all but the last close their parentheses as well. -/
structure Joinable (mark : Char) (parts : List Text) : Prop where
  nonempty : parts ≠ []
  closed : ∀ part ∈ parts, (Scan.start.run part).mode.quote? = none
  level : ∀ part ∈ parts.dropLast, (Scan.start.run part).depth = 0
  whole : ∀ part ∈ parts, ∀ before after, part = before ++ mark :: after →
    (Scan.start.run before).isTop = false

theorem eq_start_of_closed {scan : Scan} (closed : scan.mode.quote? = none)
    (level : scan.depth = 0) : scan = Scan.start := by
  rcases scan with ⟨mode, depth⟩
  cases mode with
  | plain => exact congrArg (Scan.mk .plain) level
  | quoted quote escaped => cases closed

theorem Joinable.splitTop_join {mark : Char} {parts : List Text}
    (joinable : Joinable mark parts) (unquoted : isQuote mark = false) (noOpening : mark ≠ '(') :
    splitTop [mark] (Text.join [mark] parts) = .ok parts := by
  refine splitTop_join_of_returns unquoted noOpening joinable.nonempty ?_ ?_ ?_
  · exact fun part member => (unbroken_iff unquoted noOpening).mpr (joinable.whole part member)
  · exact fun part member => eq_start_of_closed
      (joinable.closed part (List.dropLast_subset _ member)) (joinable.level part member)
  · exact joinable.closed _ (List.getLast_mem joinable.nonempty)

/-- What splitting returns comes from joining, by any separator; what is joined comes back
from splitting, by any character that is no quote and opens no parenthesis; and splitting is
refused just where the text ends inside of quotes. -/
theorem splitting_inverts_joining (separator text : Text) :
    (∀ parts, splitTop separator text = .ok parts →
      Text.join separator parts = text ∧
        ∀ part ∈ parts, splitTop separator part = .ok [part]) ∧
    (∀ mark parts, isQuote mark = false → mark ≠ '(' → Joinable mark parts →
      splitTop [mark] (Text.join [mark] parts) = .ok parts) ∧
    ∀ fault, splitTop separator text = .error fault ↔
      ∃ quote, (Scan.start.run text).mode.quote? = some quote ∧
        fault = .unterminatedQuote quote text ∧ fault.label = "SchemaParseError" := by
  refine ⟨fun parts split => ?_, fun mark parts unquoted noOpening joinable =>
    joinable.splitTop_join unquoted noOpening, fun fault => ?_⟩
  · rcases splitTop_eq_ok split with ⟨closed, shape⟩
    have separated := separated_iff.mpr shape.symm
    exact ⟨separated.join_eq, fun part member => separated.splitTop_part closed member⟩
  · rw [splitTop_eq]
    cases (Scan.start.run text).mode.quote? with
    | none => simp
    | some quote =>
        constructor
        · rintro ⟨⟩
          exact ⟨quote, rfl, rfl, rfl⟩
        · rintro ⟨_, ⟨⟩, rfl, -⟩
          rfl

/-- Neither the comma in quotes nor the one of the open group separates. -/
theorem splitting_inverts_joining_of_open_group :
    Joinable ',' ["','".toList, "(a,b".toList] ∧
      splitTop "," "',',(a,b" = .ok ["','".toList, "(a,b".toList] := by
  have joinable : Joinable ',' ["','".toList, "(a,b".toList] := by
    refine ⟨List.cons_ne_nil _ _, by decide, by decide, ?_⟩
    rw [List.forall_mem_cons, List.forall_mem_singleton]
    exact ⟨(unbroken_iff rfl (by decide)).mp rfl, (unbroken_iff rfl (by decide)).mp rfl⟩
  exact ⟨joinable, (splitting_inverts_joining "," []).2.1 ',' _ rfl (by decide) joinable⟩

end Sql

end SchemaSeed
