import SchemaSeed.Proofs.Sql.Removal
import SchemaSeed.Proofs.Table.Gap
import SchemaSeed.Proofs.Table.Wrapping

/-! A block comment in a document.  It is read like a blank, except that markers and ENGINE
clauses are searched before comments are removed, and that a comment leaves no blank behind:
words, literals and members of enumerations that only a comment parts are read as one. -/

namespace SchemaSeed

open Sql

/-! ## The block -/

theorem Agree.of_shown {first second : Except Fault α}
    (same : first.mapError Fault.shown = second.mapError Fault.shown) : Agree first second := by
  cases first with
  | ok =>
      cases second with
      | ok => cases same; exact .refl _
      | error => cases same
  | error fault =>
      cases second with
      | ok => cases same
      | error other => exact .error (Prod.mk.inj (Except.error.inj same)).1

namespace Table

/-- Two characters on either side of a place in the code of a block are not of one word, not
of two literals that become one, and not of one member of an enumeration; nor of one name in
backticks, which takes a name of other characters before it. -/
structure Parted (code : Text) (last first : Char) : Prop where
  words : Character.isWord last = false ∨ Character.isWord first = false
  names : Lexical false IsName code ∨ BarsNames last ∨ BarsNames first
  literals : last = first → last ≠ '\'' ∧ last ≠ '"'
  members : Column.Unshared (Text.squeeze true (openPiece code)) last first

/-- A piece of a block is tidied on either side of a blank that is one by itself. -/
theorem tidied_spaced {left : Text} {last first : Char} (ends : left.getLast? = some last)
    (solidLast : Character.isBlank last = false) (solidFirst : Character.isBlank first = false)
    (rest : Text) (pieces : List Text) (gap : Bool) :
    tidied ((left ++ spaced gap (first :: rest)) :: pieces) =
      (Text.squeeze true left ++ spaced gap (first ::
        (Text.squeeze false rest).rdropWhile Character.isBlank)) :: tidied pieces := by
  have collapsed : Text.collapse (left ++ spaced gap (first :: rest)) =
      Text.squeeze true left ++ spaced gap (first ::
        (Text.squeeze false rest).rdropWhile Character.isBlank) := by
    cases gap with
    | false => exact Text.collapse_append_solid solidFirst left rest
    | true =>
        have behind : Text.squeeze (Text.gapBehind true left) [' '] = [' '] := by
          rw [Text.gapBehind, ends, Option.elim_some, solidLast]
          decide
        have shape : left ++ spaced true (first :: rest) = left ++ [' '] ++ first :: rest := by
          simp [spaced]
        rw [shape, Text.collapse_append_solid solidFirst, Text.squeeze_append, behind,
          List.append_assoc]
        rfl
  have nonempty : Text.collapse (left ++ spaced gap (first :: rest)) ≠ [] := by
    rw [collapsed]
    cases gap <;> simp [spaced]
  rw [tidied_cons nonempty, collapsed]

theorem joint_squeeze {left : Text} {last first : Char} (lexical : Lexical false Unescaped left)
    (ends : left.getLast? = some last) (apart : Apart last first)
    (names : Lexical false IsName left ∨ BarsNames last ∨ BarsNames first) :
    Joint (Text.squeeze true left) last first where
  lexical := (lexical.squeeze (fun _ => id) (fun _ => Unescaped.squeeze) true).1
  ends := by
    rcases List.getLast?_eq_some_iff.mp ends with ⟨front, rfl⟩
    rw [Text.squeeze_append_solid apart.solidLast, List.getLast?_append]
    rfl
  apart := apart
  names := by
    refine names.imp_left fun proper => ?_
    have short : ∀ name, IsName name → IsName (Text.squeeze false name) := by
      intro name proper
      have solid := fun character member => isBlank_of_isNameCharacter (proper.2 character member)
      rw [Text.squeeze_of_solid solid]
      exact proper
    exact (proper.squeeze (fun _ => IsName.unescaped) short true).1

section Between

variable {code right left behind : Text} {earlier others : List Text}

theorem pieces?_spaced (between : Between code right earlier left behind others) :
    pieces? (code ++ ' ' :: right) = some (earlier ++ (left ++ ' ' :: behind) :: others) :=
  between.pieces [' '] (closed_of_blank (by simp; decide))

/-- A blank at an end of a piece or next to a blank is lost with the layout. -/
theorem parse_loose (between : Between code right earlier left behind others)
    (loose : ∀ last first, left.getLast? = some last → behind.head? = some first →
      Character.isBlank last = true ∨ Character.isBlank first = true) :
    Agree (parse (code ++ right)) (parse (code ++ ' ' :: right)) := by
  have collapsed : Text.collapse (left ++ ' ' :: behind) = Text.collapse (left ++ behind) :=
    @Text.collapse_loose _ _ [' '] (by simp; decide) loose
  have pieces : pieces? (code ++ right) = some (earlier ++ (left ++ behind) :: others) :=
    between.pieces [] .nil
  apply parse_of_tidied
  rw [pieces, pieces?_spaced between, Option.map_some, Option.map_some, tidied, tidied,
    List.map_append, List.map_append, List.map_cons, List.map_cons, collapsed]

/-- A blank between two characters of a piece stays in its candidate, which declares the
same without it. -/
theorem parse_parted {last first : Char} {rest : Text} (lexical : Lexical false Unescaped code)
    (between : Between code right earlier left (first :: rest) others)
    (ends : left.getLast? = some last) (solidLast : Character.isBlank last = false)
    (solidFirst : Character.isBlank first = false) (parted : Parted code last first) :
    Agree (parse (code ++ right)) (parse (code ++ ' ' :: right)) := by
  have joint := joint_squeeze (between.lexical _ (fun _ => id) lexical) ends
    ⟨solidLast, solidFirst, parted.words⟩
    (parted.names.imp_left (between.lexical _ fun _ => IsName.unescaped))
  have unshared := parted.members
  rw [← between.goesOn] at unshared
  have pieces : pieces? (code ++ right) =
      some (earlier ++ (left ++ spaced false (first :: rest)) :: others) := between.pieces _ .nil
  have read := candidates_of_pieces?_eq_some pieces
  have readSpaced := candidates_of_pieces?_eq_some (pieces?_spaced between)
  have tidy (gap : Bool) := tidied_spaced ends solidLast solidFirst rest others gap
  rw [tidied_append, tidy false] at read
  rw [tidied_append] at readSpaced
  rw [show left ++ ' ' :: first :: rest = left ++ spaced true (first :: rest) from rfl,
    tidy true] at readSpaced
  rw [parse_of_candidates read, parse_of_candidates readSpaced]
  refine Reading.ofCandidates_replaced ?_
    (interchangeable_spaced joint parted.literals unshared _) _ _
  rw [firstName?_spaced joint _ true]
  exact firstName?_spaced joint _ false

end Between

/-- A blank at a place in the code of a block does not matter, if what it parts was not
joined. -/
theorem parse_spaced {code right : Text} (lexical : Lexical false Unescaped code)
    (parted : ∀ last first, code.getLast? = some last → right.head? = some first →
      Character.isBlank last = false → Character.isBlank first = false →
        Parted code last first) :
    Agree (parse (code ++ right)) (parse (code ++ ' ' :: right)) := by
  have space : Closed [' '] := closed_of_blank (by simp; decide)
  rcases exists_between (lexical.mode 0) right with
    ⟨pieces, same⟩ | ⟨earlier, left, behind, others, between⟩
  · exact parse_of_tidied (congrArg (Option.map tidied) ((same [] .nil).trans (same _ space).symm))
  by_cases loose : ∀ last first, left.getLast? = some last → behind.head? = some first →
      Character.isBlank last = true ∨ Character.isBlank first = true
  · exact parse_loose between loose
  · push Not at loose
    rcases loose with ⟨last, first, ends, starts, solidLast, solidFirst⟩
    simp only [ne_eq, Bool.not_eq_true] at solidLast solidFirst
    rcases List.head?_eq_some_iff.mp starts with ⟨rest, rfl⟩
    have endsCode : code.getLast? = some last := by
      rcases between.starts with ⟨lead, rfl⟩
      rw [List.getLast?_append, ends]
      rfl
    have startsRight : right.head? = some first := by
      rcases between.ends with ⟨more, rfl⟩
      rfl
    exact parse_parted lexical between ends solidLast solidFirst
      (parted last first endsCode startsRight solidLast solidFirst)

/-! ## The document -/

/-- What follows in the declaration of a table, up to its ENGINE clause or the next marker. -/
def ahead (after : Text) : Text :=
  Block.raw ⟨0, (Cut.ofText after).lead⟩

/-- A blank stands for a comment here: the comment is in the code of a declaration, it cuts
nothing off, no annotation goes on behind it, and what it parts stays parted without it. -/
structure Replaceable (before comment after : Text) : Prop where
  lexical : Lexical true Unescaped (Cut.last before)
  noEngine : occurs engineClause? comment = false
  engine : Within engineClause? (Cut.last before) (' ' :: (Cut.ofText after).lead)
  unannotated : endsWithWord "comment" (stripComments (Cut.last before)) = true →
    literalLength? (ahead after).skipBlanks = none
  parted : ∀ last first, (stripComments (Cut.last before)).getLast? = some last →
    (behindComment (ahead after)).head? = some first →
      Character.isBlank last = false → Character.isBlank first = false →
        Parted (stripComments (Cut.last before)) last first

variable {before comment after : Text}

theorem silent_comment {matcher : Text → Option Text} (bars : Bars matcher '/')
    (nothing : matcher [] = none) (whole : blockLength? comment = some comment.length)
    (absent : occurs matcher comment = false) (rest : Text) : Silent matcher comment rest := by
  rcases List.getLast?_eq_some_iff.mp (getLast?_of_block whole) with ⟨front, rfl⟩
  rw [← silent_nil_iff] at absent
  exact (silent_bar bars nothing).mpr ⟨((silent_bar bars nothing).mp absent).1, trivial⟩

theorem silent_blank {matcher : Text → Option Text}
    (nothing : ∀ rest, matcher (' ' :: rest) = none) (rest : Text) : Silent matcher [' '] rest :=
  ⟨nothing rest, trivial⟩

/-- Declarations are read alike with a comment and with a blank in its place. -/
theorem Replaceable.agree (replaceable : Replaceable before comment after)
    (whole : blockLength? comment = some comment.length) :
    Agree (parse (around before comment after)) (parse (around before [' '] after)) := by
  have lexical := replaceable.lexical
  have commented : around before comment after =
      stripComments (Cut.last before) ++ behindComment (ahead after) :=
    lexical.stripComments_block whole (ahead after)
  have spaced : around before [' '] after =
      stripComments (Cut.last before ++ ' ' :: ahead after) := rfl
  rw [commented, spaced]
  cases line : lineLength? (ahead after) with
  | none =>
      rw [lexical.stripComments_blank line replaceable.unannotated]
      exact parse_spaced (lexical.stripped none) replaceable.parted
  | some length =>
      have opens : opensLine ((ahead after).dropWhile isMargin) = true := by
        by_contra closed
        rw [Bool.not_eq_true, ← lineLength?_eq_none_iff, line] at closed
        cases closed
      have same := lexical.collapse_line opens
      have collapsed (block : Text) := Agree.of_shown (parse_collapse block)
      exact (collapsed _).symm.trans (same ▸ collapsed _)

/-- A document is read alike with a block comment and with a blank in its place, if no marker
is in the comment or over the blank and, within the declaration of a table, the blank can
stand for the comment. -/
theorem comment_is_a_blank (whole : blockLength? comment = some comment.length)
    (noMarker : occurs tableMarker? comment = false)
    (marker : Within tableMarker? before (' ' :: after))
    (replaceable : Declares before → Replaceable before comment after) :
    Agree (parseSchema (before ++ (comment ++ after)))
      (parseSchema (before ++ ' ' :: after)) := by
  have barsMarker : Bars tableMarker? '/' := bars_phrase (by decide) (by decide)
  have barsEngine : Bars engineClause? '/' :=
    bars_engineClause (by decide) (by decide) (by decide)
  have overMarker (rest : Text) {matcher : Text → Option Text} (bars : Bars matcher '/')
      (text : Text) : Within matcher text (comment ++ rest) := by
    rcases blockLength?_eq_some whole with ⟨inside, rfl⟩
    exact within_of_bars bars text _
  refine parseSchema_splice_slice
    ⟨overMarker after barsMarker before, silent_comment barsMarker rfl whole noMarker after⟩
    ⟨marker, silent_blank (startsWith_tableMarker ' ' · (by decide)) after⟩
    fun declares _ => ?_
  have place := replaceable declares
  have uncut : Uncut before comment after := {
    marker := overMarker after barsMarker before
    noMarker := silent_comment barsMarker rfl whole noMarker after
    engine := overMarker _ barsEngine _
    noEngine := silent_comment barsEngine rfl whole place.noEngine _ }
  have uncutBlank : Uncut before [' '] after := {
    marker := marker
    noMarker := silent_blank (startsWith_tableMarker ' ' · (by decide)) after
    engine := place.engine
    noEngine := silent_blank (startsWith_engineClause ' ' · (by decide)) _ }
  rw [uncut.declaration_eq declares, uncutBlank.declaration_eq declares]
  exact place.agree whole

/-- Quotes, parentheses and key words in a comment between two members mean nothing. -/
theorem comment_between_members :
    let block : Text := "CREATE TABLE `t` (`e` ENUM('it''s',"
    let before : Text := "CREATE TABLE `s` (`id` INT) ENGINE=InnoDB; " ++ block
    let comment : Text := "/* , ' ENGINE ( PRIMARY KEY */"
    let after : Text := "'b') NOT NULL, `id` INT, PRIMARY KEY (`id`)) ENGINE=InnoDB;"
    blockLength? comment = some comment.length ∧ occurs tableMarker? comment = false ∧
      Within tableMarker? before (' ' :: after) ∧ Replaceable before comment after ∧
      Agree (parseSchema (before ++ (comment ++ after)))
        (parseSchema (before ++ ' ' :: after)) := by
  intro block before comment after
  have whole : blockLength? comment = some comment.length := by decide
  have noMarker : occurs tableMarker? comment = false := by decide
  have marker : Within tableMarker? before (' ' :: after) := by decide
  have last : Cut.last before = block := by decide
  have stripped : stripComments block = block := by decide
  have replaceable : Replaceable before comment after := {
    lexical := by
      rw [last]
      exact .mono (fun _ => IsName.unescaped) (@reads_of_lexes .plain _ (by decide))
    noEngine := by decide
    engine := by
      rw [last]
      decide
    unannotated := by
      rw [last, stripped]
      decide
    parted := by
      have ends : block.getLast? = some ',' := by decide
      have starts : (behindComment (ahead after)).head? = some '\'' := by decide
      rw [last, stripped, ends, starts]
      rintro - - ⟨⟩ ⟨⟩ - -
      exact ⟨.inl (by decide), .inr (.inl ⟨by decide, by decide⟩), by decide,
        .edge (by decide) (.inl (.inr rfl))⟩ }
  exact ⟨whole, noMarker, marker, replaceable,
    comment_is_a_blank whole noMarker marker fun _ => replaceable⟩

set_option maxRecDepth 4000 in
/-- A marker in a comment ends the block that holds it. -/
theorem marker_in_comment_is_read :
    ¬ ∀ before comment after : Text, Lexical true IsName before →
      blockLength? comment = some comment.length →
        Agree (parseSchema (before ++ (comment ++ after)))
          (parseSchema (before ++ ' ' :: after)) := by
  intro transparent
  let before : Text := "CREATE TABLE `t` (`id` INT, `n` INT "
  let after : Text := " NOT NULL, PRIMARY KEY (`id`)) ENGINE=InnoDB;"
  have agree := transparent before "/* was CREATE TABLE */" after
    (@reads_of_lexes .plain _ (by decide)) (by decide)
  have read : (parseSchema (before ++ ' ' :: after)).toOption =
      some [⟨"t", "id", [⟨"n", some .int32, some 0, false, []⟩]⟩] := by
    decide
  have cut : (parseSchema (before ++ ("/* was CREATE TABLE */" ++ after))).toOption = none := by
    decide
  rw [agree.toOption_eq, read] at cut
  cases cut

end Table

end SchemaSeed
