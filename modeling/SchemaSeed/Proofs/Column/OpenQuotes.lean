import SchemaSeed.Proofs.Column.Items
import SchemaSeed.Proofs.Sql.FirstGroup
import SchemaSeed.Proofs.Sql.Splitting
import SchemaSeed.Proofs.Table.Schema

/-! A block whose quotes are left open is refused when its body is looked for.  Everything that
is cut out of a block afterwards begins and ends outside of quotes: its body, its candidates,
what follows the name of a column and what follows the name of its type.  No later reader
therefore comes upon an open quote. -/

namespace SchemaSeed

namespace Sql

/-- Quoted text that begins in the text also ends in it. -/
def EndsPlain (text : Text) : Prop :=
  Mode.plain.run text = .plain

theorem endsPlain_iff {text : Text} (depth : Nat) :
    EndsPlain text ↔ (Scan.run ⟨.plain, depth⟩ text).mode.quote? = none := by
  rw [EndsPlain, mode_run]
  exact ⟨fun plain => by rw [plain]; rfl, plain_of_quote?⟩

namespace EndsPlain

theorem of_append {front back : Text} (plain : EndsPlain front)
    (whole : EndsPlain (front ++ back)) : EndsPlain back := by
  rwa [EndsPlain, Mode.run_append, plain] at whole

theorem of_unquoted {text : Text} (unquoted : ∀ character ∈ text, isQuote character = false) :
    EndsPlain text := by
  induction text with
  | nil => rfl
  | cons character text induction =>
      rw [List.forall_mem_cons] at unquoted
      have step : Mode.plain.step character = .plain := by rw [Mode.step, unquoted.1]; rfl
      rw [EndsPlain, Mode.run_cons, step]
      exact induction unquoted.2

theorem of_blank {text : Text}
    (blank : ∀ character ∈ text, Character.isBlank character = true) : EndsPlain text :=
  of_unquoted fun character member => (ordinary_of_blank (blank character member)).1

theorem squeezed {gap : Bool} {text short : Text} (squeezed : Text.Squeezed gap text short) :
    EndsPlain text ↔ EndsPlain short := by
  rw [endsPlain_iff 0, endsPlain_iff 0, quote?_run_squeezed squeezed (reads_plain gap 0)]

theorem collapse {text : Text} (plain : EndsPlain text) : EndsPlain text.collapse :=
  (squeezed (Text.squeezed_collapse text).1).mp plain

theorem skipBlanks {text : Text} (plain : EndsPlain text) : EndsPlain text.skipBlanks := by
  have front : EndsPlain (text.takeWhile Character.isBlank) :=
    of_blank fun _ => List.mem_takeWhile_imp
  refine front.of_append ?_
  rwa [Text.skipBlanks, List.takeWhile_append_dropWhile]

theorem strip {text : Text} (plain : EndsPlain text) : EndsPlain text.strip := by
  rw [squeezed (Text.squeezed_collapse _).1, Text.collapse_strip]
  exact plain.collapse

end EndsPlain

/-! ## Groups and lists -/

/-- What is cut out of plain text at its separators is plain itself. -/
theorem splitTop_of_endsPlain {text : Text} (plain : EndsPlain text) (separator : Text) :
    ∃ parts, splitTop separator text = .ok parts ∧ ∀ part ∈ parts, EndsPlain part := by
  have closed := (endsPlain_iff 0).mp plain
  rcases exists_separated separator text with ⟨parts, separated⟩
  refine ⟨parts, ?_, fun part member => ?_⟩
  · rw [splitTop_eq, Scan.start, closed]
    exact congrArg Except.ok separated.partsFrom_eq
  · exact (endsPlain_iff 0).mpr (splitTop_eq_ok (separated.splitTop_part closed member)).1

theorem modeAt_length (text : Text) (start : Nat) :
    modeAt text start text.length = Mode.plain.run (text.drop start) := by
  rw [modeAt, Text.slice, List.take_of_length_le]
  rw [List.length_drop]

theorem findGroup_of_endsPlain {text : Text} {start : Nat} (bound : start ≤ text.length)
    (plain : EndsPlain (text.drop start)) : ∃ found, findGroup text start = .ok found := by
  cases sought : findGroup text start with
  | ok found => exact ⟨found, rfl⟩
  | error fault =>
      rcases findGroup_eq_unterminated.mp sought with ⟨quote, searched, -⟩
      have quoted := ((ends_search bound).unterminated_iff.mp searched).2
      rw [modeAt_length, plain] at quoted
      cases quoted

theorem opens_of_findGroup {text : Text} {start : Nat} (bound : start ≤ text.length)
    {group : Group} (found : findGroup text start = .ok (some group)) :
    Opens text start group.opening := by
  have ends := ends_search bound
  rw [findGroup_eq_found.mp found] at ends
  cases ends with
  | closed opens | leftOpen opens => exact opens

theorem endsPlain_inside {text : Text} {start : Nat} {group : Group}
    (found : findGroup text start = .ok (some group)) :
    EndsPlain (text.slice (group.opening + 1) group.closing) := by
  rcases opened_of_findGroup found with ⟨rest, -, closed, slice⟩
  rwa [slice, endsPlain_iff 1]

/-! ## Candidates -/

/-- Only the search for the body can refuse a block. -/
theorem candidates_eq_error_iff {block : Text} {fault : Fault} :
    candidates block = .error fault ↔ findGroup block 0 = .error fault := by
  rw [candidates]
  cases found : findGroup block 0 with
  | error refused => simp
  | ok group =>
      cases group with
      | none => simp
      | some group =>
          rcases splitTop_of_endsPlain (endsPlain_inside found) "," with ⟨pieces, split, -⟩
          simp only [split, reduceCtorEq]

theorem endsPlain_of_tidied {pieces : List Text} (plain : ∀ piece ∈ pieces, EndsPlain piece)
    {candidate : Text} (member : candidate ∈ tidied pieces) : EndsPlain candidate := by
  rcases List.mem_map.mp (List.mem_filter.mp member).1 with ⟨piece, known, rfl⟩
  exact (plain piece known).collapse

theorem endsPlain_of_candidate {block candidate : Text} {found : List Text}
    (read : candidates block = .ok found) (member : candidate ∈ found) : EndsPlain candidate := by
  have bound : 0 ≤ block.length := Nat.zero_le _
  rw [candidates] at read
  cases sought : findGroup block 0 with
  | error fault => simp [sought] at read
  | ok group =>
      cases group with
      | none =>
          have outside := ((ends_search bound).absent_iff.mp (findGroup_eq_absent.mp sought)).2
          simp only [sought, Except.ok.injEq] at read
          rw [← read] at member
          refine endsPlain_of_tidied (List.forall_mem_singleton.mpr ?_) member
          rwa [modeAt_length] at outside
      | some group =>
          have head := (standsAt_iff.mp (opens_of_findGroup bound sought).stands).2
          rcases splitTop_of_endsPlain (endsPlain_inside sought) "," with ⟨pieces, split, plain⟩
          simp only [sought, split, Except.ok.injEq] at read
          rw [← read] at member
          exact endsPlain_of_tidied (List.forall_mem_cons.mpr ⟨head, plain⟩) member

end Sql

namespace Column

open Sql

/-! ## Declarations -/

/-- The name in front of a declaration closes its own quotes. -/
theorem endsPlain_splitName {definition : Text} (plain : EndsPlain definition) :
    EndsPlain (splitName definition).2 := by
  rw [splitName]
  split
  · rename_i name rest quoted
    rcases quotedName?_eq_some quoted with ⟨-, known, shape⟩
    have enclosed : Enclosed backtick name := .of_plain fun character member =>
      ⟨ne_of_isNameCharacter (known character member) (by decide),
        ne_of_isNameCharacter (known character member) (by decide)⟩
    have front : EndsPlain (backtick :: name ++ [backtick]) := by
      rw [endsPlain_iff 0, (closed_quoted (by decide) enclosed).returns 0]
      rfl
    have whole := plain.skipBlanks
    rw [shape, List.append_cons] at whole
    exact (front.of_append whole).skipBlanks
  · exact plain.strip

theorem endsPlain_behind_typeName {declaration typeName : Text} {typeEnd : Nat}
    (plain : EndsPlain declaration)
    (found : typeName? declaration = some (typeName, typeEnd)) :
    EndsPlain (declaration.drop typeEnd) := by
  have unquoted : ∀ character ∈ declaration.skipBlanks.takeWhile isTypeCharacter,
      isQuote character = false := by
    intro character member
    have known := List.mem_takeWhile_imp member
    have foreign : ∀ quote ∈ ['\'', '"', backtick], isTypeCharacter quote = false := by decide
    have different {quote : Char} (among : quote ∈ ['\'', '"', backtick]) :
        character ≠ quote := by
      rintro rfl
      rw [foreign character among] at known
      cases known
    simp [isQuote, different]
  rw [drop_of_typeName? found]
  refine (EndsPlain.of_unquoted unquoted).of_append ?_
  rw [List.takeWhile_append_dropWhile]
  exact plain.skipBlanks

theorem le_length_of_typeName? {declaration typeName : Text} {typeEnd : Nat}
    (found : typeName? declaration = some (typeName, typeEnd)) :
    typeEnd ≤ declaration.length := by
  simp only [typeName?] at found
  split at found
  · cases found
  · cases found
    have name := (List.takeWhile_prefix isTypeCharacter (l := declaration.skipBlanks)).length_le
    have rest := (List.dropWhile_suffix Character.isBlank (l := declaration)).length_le
    rw [← Text.skipBlanks] at rest
    omega

/-- The members of an enumeration are always read to their end. -/
theorem membersFrom_of_endsPlain {declaration : Text} {start : Nat}
    (bound : start ≤ declaration.length) (plain : EndsPlain (declaration.drop start)) :
    ∃ members, membersFrom declaration start = .ok members := by
  rcases findGroup_of_endsPlain bound plain with ⟨found, sought⟩
  rw [membersFrom, sought]
  cases found with
  | none => exact ⟨[], rfl⟩
  | some group =>
      rcases splitTop_of_endsPlain (endsPlain_inside sought) "," with ⟨parts, split, -⟩
      simp only [split]
      split
      · exact ⟨[], rfl⟩
      · exact ⟨parts.map member, rfl⟩

/-- An open quote keeps a block from being cut into candidates, and nothing else does.  No
candidate of another block has one, neither by itself nor behind the name of its column or of
its type; so what is left to keep it from being classified is a length that is too long. -/
theorem open_quotes_are_found_at_once (block : Text) :
    (∀ fault, candidates block = .error fault ↔ findGroup block 0 = .error fault) ∧
    (∀ group, findGroup block 0 = .ok (some group) →
      ∃ pieces, splitTop "," (block.slice (group.opening + 1) group.closing) = .ok pieces) ∧
    ∀ found, candidates block = .ok found → ∀ candidate ∈ found,
      EndsPlain candidate ∧
      (∀ separator, ∃ parts, splitTop separator candidate = .ok parts) ∧
      (∀ typeName typeEnd, typeName? (splitName candidate).2 = some (typeName, typeEnd) →
        ∃ members, membersFrom (splitName candidate).2 typeEnd = .ok members) ∧
      ∀ fault, classify candidate = .error fault → ∃ digits, fault = .numeralTooLong digits := by
  refine ⟨fun fault => candidates_eq_error_iff, fun group found => ?_,
    fun found read candidate member => ?_⟩
  · rcases splitTop_of_endsPlain (endsPlain_inside found) "," with ⟨pieces, split, -⟩
    exact ⟨pieces, split⟩
  · have plain := endsPlain_of_candidate read member
    have members (typeName : Text) (typeEnd : Nat)
        (typed : typeName? (splitName candidate).2 = some (typeName, typeEnd)) :
        ∃ members, membersFrom (splitName candidate).2 typeEnd = .ok members :=
      membersFrom_of_endsPlain (le_length_of_typeName? typed)
        (endsPlain_behind_typeName (endsPlain_splitName plain) typed)
    refine ⟨plain, fun separator => ?_, members, fun fault failed => ?_⟩
    · rcases splitTop_of_endsPlain plain separator with ⟨parts, split, -⟩
      exact ⟨parts, split⟩
    · rcases fault_of_classify failed with ⟨typeName, typeEnd, typed, unread⟩ | ⟨digits, -, long⟩
      · rcases members typeName typeEnd typed with ⟨_, read⟩
        rw [unread] at read
        cases read
      · exact ⟨digits, long⟩

set_option maxRecDepth 4000 in
/-- A body that is left open, and a blank that a backslash takes along before the blanks are
collapsed. -/
theorem escaped_blank_leaves_no_open_quote :
    candidates "(`e` ENUM('\\  ' ,'b'" = .ok ["`e` ENUM('\\ ' ,'b'"] ∧
      ∃ members, membersFrom "ENUM('\\ ' ,'b'" 4 = .ok members := by
  have read : candidates "(`e` ENUM('\\  ' ,'b'" = .ok ["`e` ENUM('\\ ' ,'b'"] := rfl
  have settled := (open_quotes_are_found_at_once "(`e` ENUM('\\  ' ,'b'").2.2 _ read _
    List.mem_cons_self
  exact ⟨read, settled.2.2.1 "ENUM" 4 (by decide)⟩

end Column

end SchemaSeed
