import Mathlib.Data.List.DropRight
import SchemaSeed.Proofs.Sql.Candidate
import SchemaSeed.Proofs.Sql.Marker
import SchemaSeed.Proofs.Sql.Names
import SchemaSeed.Table.Reading

/-! Reading a whole schema document.  Documents may be cut wherever a marker stands,
and every block of a document starts with a letter of its marker, so that no block is
empty and no head is taken for a column. -/

namespace SchemaSeed

namespace Decimal

/-- The text holds that many decimal digits in a row, and no numeral of so many digits is
converted. -/
def HoldsLongNumeral (text : Text) (digits : Nat) : Prop :=
  ∃ numeral, numeral <:+: text ∧ numeral.length = digits ∧ digitLimit < digits ∧
    ∀ digit ∈ numeral, Character.isDecimalDigit digit = true

theorem HoldsLongNumeral.mono {part text : Text} {digits : Nat}
    (holds : HoldsLongNumeral part digits) (within : part <:+: text) :
    HoldsLongNumeral text digits := by
  rcases holds with ⟨numeral, inPart, rest⟩
  exact ⟨numeral, inPart.trans within, rest⟩

theorem HoldsLongNumeral.lt_length {text : Text} {digits : Nat}
    (holds : HoldsLongNumeral text digits) : digitLimit < text.length := by
  rcases holds with ⟨numeral, within, rfl, long, -⟩
  exact Nat.lt_of_lt_of_le long within.length_le

end Decimal

namespace Column

theorem fault_of_membersFrom {declaration : Text} {start : Nat} {fault : Fault}
    (failed : membersFrom declaration start = .error fault) :
    ∃ quote text, Sql.isQuote quote = true ∧ fault = .unterminatedQuote quote text := by
  simp only [membersFrom] at failed
  split at failed
  · rename_i sought
    cases failed
    rcases Sql.fault_of_findGroup sought with ⟨quote, known, equal⟩
    exact ⟨quote, _, known, equal⟩
  · cases failed
  · split at failed
    · cases failed
    · rename_i group sought filled
      cases split : Sql.splitTop ("," : Text)
          (declaration.slice (group.opening + 1) group.closing) with
      | error found =>
          rw [split] at failed
          cases failed
          rcases Sql.fault_of_splitTop split with ⟨quote, known, equal⟩
          exact ⟨quote, _, known, equal⟩
      | ok pieces =>
          rw [split] at failed
          cases failed

theorem lengthDigits_isInfix (text : Text) : lengthDigits text <:+: text := by
  have skipped : ∀ text : Text, text.skipBlanks <:+: text :=
    fun text => (List.dropWhile_suffix _).isInfix
  simp only [lengthDigits]
  split
  · rename_i inside opened
    refine (List.takeWhile_prefix _).isInfix.trans ((skipped inside).trans ?_)
    exact (opened ▸ List.suffix_cons '(' inside).isInfix.trans (skipped text)
  · exact List.nil_infix

theorem fault_of_declaredLength {text : Text} {fault : Fault}
    (failed : declaredLength text = .error fault) :
    ∃ digits, Decimal.HoldsLongNumeral text digits ∧ fault = .numeralTooLong digits := by
  simp only [declaredLength] at failed
  split at failed
  · rename_i long
    cases failed
    refine ⟨_, ⟨lengthDigits text, lengthDigits_isInfix text, rfl, long, ?_⟩, rfl⟩
    intro digit member
    simp only [lengthDigits] at member
    split at member
    · exact List.mem_takeWhile_imp member
    · cases member
  · cases failed

theorem splitName_isInfix (declaration : Text) : (splitName declaration).2 <:+: declaration := by
  have skipped : ∀ text : Text, text.skipBlanks <:+: text :=
    fun text => (List.dropWhile_suffix _).isInfix
  simp only [splitName]
  split
  · rename_i name rest quoted
    have shape := (Sql.quotedName?_eq_some quoted).2.2
    have behind : rest <:+: declaration.skipBlanks := by
      rw [shape]
      exact (List.suffix_append_of_suffix (List.suffix_cons _ _)).isInfix
    exact (skipped rest).trans (behind.trans (skipped declaration))
  · rw [Text.strip, Text.trim]
    have back : ((declaration.dropWhile Character.isBlank).reverse.dropWhile
        Character.isBlank).reverse <+: declaration.dropWhile Character.isBlank :=
      List.rdropWhile_prefix Character.isBlank _
    exact back.isInfix.trans (skipped declaration)

/-- A column cannot be classified only when its members end inside quotes or when its
length is written with too many digits. -/
theorem fault_of_classify {definition : Text} {fault : Fault}
    (failed : classify definition = .error fault) :
    (∃ typeName typeEnd, typeName? (splitName definition).2 = some (typeName, typeEnd) ∧
        membersFrom (splitName definition).2 typeEnd = .error fault) ∨
      ∃ digits, Decimal.HoldsLongNumeral definition digits ∧ fault = .numeralTooLong digits := by
  simp only [classify] at failed
  split at failed
  · cases failed
  · rename_i found
    rcases Option.bind_eq_some_iff.mp found with ⟨⟨typeName, place⟩, typed, mapped⟩
    rcases Option.map_eq_some_iff.mp mapped with ⟨⟨keyword, _⟩, -, same⟩
    rcases Prod.mk.inj same with ⟨rfl, rfl⟩
    simp only [ofCategory] at failed
    split at failed
    · cases failed
    · split at failed
      · rename_i tooLong
        cases failed
        rcases fault_of_declaredLength tooLong with ⟨digits, holds, equal⟩
        exact .inr ⟨digits, (holds.mono (List.drop_suffix _ _).isInfix).mono
          (splitName_isInfix definition), equal⟩
      · split at failed
        · split at failed
          · rename_i unread
            cases failed
            exact .inl ⟨typeName, place, typed, unread⟩
          · cases failed
          · cases failed
        · cases failed
        · cases failed

end Column

namespace Reading

theorem fault_of_columnsOf {primaryKey : Text} {candidates : List Text} {fault : Fault}
    (failed : columnsOf primaryKey candidates = .error fault) :
    (∃ quote text, Sql.isQuote quote = true ∧ fault = .unterminatedQuote quote text) ∨
      ∃ candidate ∈ candidates, ∃ digits, Decimal.HoldsLongNumeral candidate digits ∧
        fault = .numeralTooLong digits := by
  induction candidates with
  | nil => cases failed
  | cons candidate rest induction =>
      have later : columnsOf primaryKey rest = .error fault → _ := fun unread =>
        (induction unread).imp_right fun ⟨found, member, holds⟩ =>
          show ∃ found ∈ candidate :: rest, ∃ digits, Decimal.HoldsLongNumeral found digits ∧
              fault = Fault.numeralTooLong digits from
            ⟨found, List.mem_cons_of_mem candidate member, holds⟩
      simp only [columnsOf] at failed
      split at failed
      · split at failed
        · rename_i unclassified
          cases failed
          exact (Column.fault_of_classify unclassified).imp
            (fun ⟨_, _, _, unread⟩ => Column.fault_of_membersFrom unread)
            fun digits => ⟨candidate, List.mem_cons_self, digits⟩
        · split at failed
          · rename_i unread
            cases failed
            exact later unread
          · cases failed
      · split at failed
        · rename_i unread
          cases failed
          exact later unread
        · cases failed

/-- Only a block without candidates is empty. -/
theorem ofCandidates_ne_emptyBlock (head : Text) (body : List Text) :
    ofCandidates (head :: body) ≠ .error .emptyBlock := by
  intro failed
  simp only [ofCandidates] at failed
  split at failed
  · cases failed
  · split at failed
    · cases failed
    · split at failed
      · rename_i unread
        cases failed
        rcases fault_of_columnsOf unread with ⟨_, _, -, equal⟩ | ⟨_, -, _, -, equal⟩ <;> cases equal
      · cases failed

/-- A candidate that does not start with a quoted name has none. -/
theorem splitName_of_head {character : Char} (solid : Character.isBlank character = false)
    (unquoted : character ≠ Sql.backtick) (tail : Text) :
    (Column.splitName (character :: tail)).1 = none := by
  simp [Column.splitName, Text.skipBlanks, solid, Sql.quotedName?, unquoted]

theorem isPlainColumn_eq_false_of_unnamed {candidate : Text}
    (unnamed : (Column.splitName candidate).1 = none) (primaryKey : Text) :
    isPlainColumn primaryKey candidate = false := by
  simp only [isPlainColumn]
  split
  · rfl
  · rcases split : Column.splitName candidate with ⟨name, declaration⟩
    rw [split] at unnamed
    simp only at unnamed
    simp [unnamed]

theorem isPlainColumn_eq_false_of_head {character : Char}
    (solid : Character.isBlank character = false) (unquoted : character ≠ Sql.backtick)
    (primaryKey tail : Text) : isPlainColumn primaryKey (character :: tail) = false :=
  isPlainColumn_eq_false_of_unnamed (splitName_of_head solid unquoted tail) primaryKey

theorem upToFault_append (left right : List Text) :
    upToFault (left ++ right) =
      match (upToFault left).2 with
      | some fault => ((upToFault left).1, some fault)
      | none => ((upToFault left).1 ++ (upToFault right).1, (upToFault right).2) := by
  induction left with
  | nil => rfl
  | cons block rest induction =>
      simp only [List.cons_append, upToFault]
      cases ofBlock block with
      | error fault => rfl
      | ok reading =>
          simp only [induction]
          cases (upToFault rest).2 with
          | none => rfl
          | some fault => rfl

end Reading

namespace Table

/-- A document that is cut at a marker gives the tables of its parts; the fault of the
first part, if it has one, ends the reading. -/
theorem parseSchema_append {left right : Text}
    (marked : (Sql.tableMarker? right).isSome = true) :
    parseSchema (left ++ right) =
      (parseSchema left).bind fun tables => (parseSchema right).map (tables ++ ·) := by
  simp only [parseSchema, Sql.segment_append marked, Reading.upToFault_append]
  rcases Reading.upToFault (Sql.segment left) with ⟨first, firstFault⟩
  rcases Reading.upToFault (Sql.segment right) with ⟨second, secondFault⟩
  cases firstFault with
  | some fault => rfl
  | none =>
      cases secondFault with
      | some fault => rfl
      | none => simp [Except.bind, Except.map]

/-- Every block of a document starts with a letter C. -/
theorem head_of_mem_segment {document declaration : Text}
    (member : declaration ∈ Sql.segment document) :
    ∃ character tail, declaration = character :: tail ∧
      Character.spells 'c' character = true := by
  rcases List.mem_map.mp member with ⟨block, known, rfl⟩
  exact Sql.declaration_head (Sql.marked_block known)

theorem parse_ne_emptyBlock {character : Char} {tail : Text}
    (solid : Character.isBlank character = false) (unopened : character ≠ '(') :
    parse (character :: tail) ≠ .error .emptyBlock := by
  intro failed
  simp only [parse, Reading.ofBlock] at failed
  split at failed
  · rename_i uncut
    rcases Sql.fault_of_candidates uncut with ⟨quote, text, -, rfl⟩
    cases failed
  · rename_i found read
    rcases Sql.candidates_of_solid_head solid unopened read with ⟨headTail, body, rfl⟩
    have nonempty := Reading.ofCandidates_ne_emptyBlock (character :: headTail) body
    cases outcome : Reading.ofCandidates ((character :: headTail) :: body) with
    | ok reading =>
        rw [outcome] at failed
        cases failed
    | error fault =>
        rw [outcome] at failed nonempty
        cases failed
        exact nonempty rfl

/-- A schema document can be cut wherever a marker CREATE TABLE stands: its blocks and
its tables are those of the two parts.  Within a document there is one block per marker,
the blocks are disjoint and in order, and a block starts with its whole marker exactly
if the last letter of the marker does not begin an ENGINE clause.  No block is empty,
and the head of a block never declares a column. -/
theorem schema_reading_is_cut_at_markers (left right document : Text) :
    ((Sql.tableMarker? right).isSome = true →
      Sql.segment (left ++ right) = Sql.segment left ++ Sql.segment right ∧
      parseSchema (left ++ right) =
        (parseSchema left).bind fun tables => (parseSchema right).map (tables ++ ·)) ∧
    Sql.segment document =
      (Sql.blocks document).map (fun block => Sql.stripComments block.raw) ∧
    (Sql.blocks document).map (·.offset) = Sql.findAll Sql.tableMarker? 0 0 document ∧
    ((Sql.blocks document).Pairwise fun earlier later =>
      earlier.offset + earlier.raw.length ≤ later.offset) ∧
    (∀ block ∈ Sql.blocks document,
      block.raw <+: document.drop block.offset ∧ block.slice <+: document.drop block.offset ∧
      ∃ marker after, Sql.tableMarker? block.slice = some after ∧
        block.slice = marker ++ after ∧
        ((∃ tail, Sql.stripComments block.raw = marker ++ tail) ↔
          Sql.engineClause? ('E' :: after) = none)) ∧
    ∀ declaration ∈ Sql.segment document,
      Sql.candidates declaration ≠ .ok [] ∧
      parse declaration ≠ .error .emptyBlock ∧
      ∀ head body, Sql.candidates declaration = .ok (head :: body) →
        ∀ primaryKey, Reading.isPlainColumn primaryKey head = false := by
  constructor
  · intro marked
    exact ⟨Sql.segment_append marked, parseSchema_append marked⟩
  · refine ⟨rfl, Sql.offsets_blocks document, Sql.blocksFrom_disjoint _ _, ?_, ?_⟩
    · intro block member
      have slice := Sql.slice_at_offset member
      rcases Option.isSome_iff_exists.mp (Sql.marked_block member) with ⟨after, matched⟩
      rcases Sql.declaration_starts_with_marker_iff matched with ⟨marker, whole, kept⟩
      exact ⟨(List.take_prefix _ _).trans slice, slice, marker, after, matched, whole, kept⟩
    · intro declaration member
      rcases head_of_mem_segment member with ⟨character, tail, rfl, spelled⟩
      have solid := Character.isBlank_eq_false_of_spells (by decide) spelled
      have letter : Sql.IsMarkerCharacter character := .inr ⟨'c', by decide, spelled⟩
      have unopened : character ≠ '(' := letter.ne (by decide) (by decide)
      have unquoted : character ≠ Sql.backtick := letter.ne (by decide) (by decide)
      refine ⟨?_, ?_, ?_⟩
      · intro read
        rcases Sql.candidates_of_solid_head solid unopened read with ⟨_, _, equal⟩
        cases equal
      · exact parse_ne_emptyBlock solid unopened
      · intro head body read primaryKey
        rcases Sql.candidates_of_solid_head solid unopened read with ⟨headTail, _, equal⟩
        cases equal
        exact Reading.isPlainColumn_eq_false_of_head solid unquoted primaryKey headTail

/-- The ENGINE clause may begin with the last letter of the marker; the block then holds
no marker at all. -/
theorem engine_clause_cuts_marker_short :
    ¬ ∀ document : Text, ∀ block ∈ Sql.blocks document, ∃ marker after tail,
      Sql.tableMarker? block.slice = some after ∧ block.slice = marker ++ after ∧
        Sql.stripComments block.raw = marker ++ tail := by
  intro kept
  have member : (⟨0, ("CREATE TABLENGINE=InnoDB" : Text)⟩ : Sql.Block) ∈
      Sql.blocks "CREATE TABLENGINE=InnoDB" := by decide
  rcases kept _ _ member with ⟨marker, after, tail, matched, whole, stripped⟩
  have rest : Sql.tableMarker? "CREATE TABLENGINE=InnoDB" = some ("NGINE=InnoDB" : Text) := by
    decide
  have short : Sql.stripComments (Sql.Block.raw ⟨0, "CREATE TABLENGINE=InnoDB"⟩) =
      "CREATE TABL" := by decide
  have remains : ("NGINE=InnoDB" : Text) = after := Option.some.inj (rest.symm.trans matched)
  subst remains
  rw [short] at stripped
  have sliceLength := congrArg List.length whole
  have strippedLength := congrArg List.length stripped
  simp at sliceLength strippedLength
  omega

set_option maxRecDepth 8000 in
/-- A document of two tables, cut between them. -/
theorem schema_reading_is_cut_between_two_tables :
    let left : Text := "CREATE TABLE `a` (`id` INT, PRIMARY KEY (`id`)) ENGINE=InnoDB;"
    let right : Text := "create\ttable `b` (`id` INT PRIMARY KEY, `n` INT)"
    (Sql.tableMarker? right).isSome = true ∧
      Sql.segment (left ++ right) =
        [("CREATE TABLE `a` (`id` INT, PRIMARY KEY (`id`)) " : Text), right] ∧
      (parseSchema (left ++ right)).toOption = some [⟨"a", "id", []⟩,
        ⟨"b", "id", [⟨"n", some .int32, some 0, false, []⟩]⟩] := by
  intro left right
  have marked : (Sql.tableMarker? right).isSome = true := by decide
  rcases (schema_reading_is_cut_at_markers left right []).1 marked with ⟨segments, tables⟩
  refine ⟨marked, ?_, ?_⟩
  · rw [segments]
    decide
  · rw [tables]
    decide

end Table

end SchemaSeed
