import SchemaSeed.Proofs.Sql.Comments
import SchemaSeed.Proofs.Sql.Segment

/-! What becomes of the marker of a block.  Comments never reach into a marker.  An
ENGINE clause can: its first letter may be the last letter of the marker, and then the
block ends one character before its marker does.  In every other case the block starts
with its whole marker. -/

namespace SchemaSeed

namespace Sql

theorem engineClause?_eq_none_of_second {second : Char}
    (foreign : Character.spells 'n' second = false) (first : Char) (rest : Text) :
    engineClause? (first :: second :: rest) = none := by
  have word : word? "engine" (first :: second :: rest) = none := by
    change word? ('e' :: 'n' :: ['g', 'i', 'n', 'e']) (first :: second :: rest) = none
    simp only [word?, foreign, Bool.false_eq_true, if_false, ite_self]
  simp only [engineClause?, word, Option.bind_none]

theorem word?_comment_eq_none_of_second {second : Char}
    (foreign : Character.spells 'o' second = false) (first : Char) (rest : Text) :
    word? "comment" (first :: second :: rest) = none := by
  change word? ('c' :: 'o' :: ['m', 'm', 'e', 'n', 't']) (first :: second :: rest) = none
  simp only [word?, foreign, Bool.false_eq_true, if_false, ite_self]

theorem engineClause?_cons_of_spells {first : Char}
    (spelled : Character.spells 'e' first = true) (rest : Text) :
    engineClause? (first :: rest) = engineClause? ('E' :: rest) := by
  have capital : Character.spells 'e' 'E' = true := by decide
  change (word? ('e' :: ['n', 'g', 'i', 'n', 'e']) (first :: rest)).bind _ =
    (word? ('e' :: ['n', 'g', 'i', 'n', 'e']) ('E' :: rest)).bind _
  simp only [word?, spelled, capital, if_true]

/-! ## The characters of a marker -/

/-- Blanks and plain letters. -/
def IsMarkerCharacter (character : Char) : Prop :=
  Character.isBlank character = true ∨
    ∃ letter, Character.IsPlainLetter letter ∧ Character.spells letter character = true

theorem IsMarkerCharacter.ne {character other : Char} (known : IsMarkerCharacter character)
    (solid : Character.isBlank other = false) (noLetter : other.toNat < 65 ∨ other.toNat = 96) :
    character ≠ other := by
  rintro rfl
  rcases known with blank | ⟨letter, plain, spelled⟩
  · simp [blank] at solid
  · have code := Character.toNat_of_spells plain spelled
    rcases plain with ⟨low, high, -⟩
    omega

theorem IsMarkerCharacter.unquoted {character : Char} (known : IsMarkerCharacter character) :
    isQuote character = false := by
  have noSingle : character ≠ '\'' := known.ne (by decide) (by decide)
  have noDouble : character ≠ '"' := known.ne (by decide) (by decide)
  have noBacktick : character ≠ backtick := known.ne (by decide) (by decide)
  simp [isQuote, noSingle, noDouble, noBacktick]

theorem isMarkerCharacter_of_spelled {letters word : Text} (spelled : Spelled letters word)
    (plain : ∀ letter ∈ letters, Character.IsPlainLetter letter) :
    ∀ character ∈ word, IsMarkerCharacter character := by
  intro character member
  rcases exists_of_mem_right spelled member with ⟨letter, known, spelledBy⟩
  exact .inr ⟨letter, plain letter known, spelledBy⟩

/-- No ENGINE clause starts within the word CREATE of a marker. -/
theorem silent_engineClause_opening {opening : Text}
    (spelled : Spelled ['c', 'r', 'e', 'a', 't', 'e'] opening) {blank : Char}
    (isBlank : Character.isBlank blank = true) (rest : Text) :
    Silent engineClause? opening (blank :: rest) := by
  rcases List.forall₂_cons_left_iff.mp spelled with ⟨c, _, spelledC, spelledReate, rfl⟩
  rcases List.forall₂_cons_left_iff.mp spelledReate with ⟨r, _, spelledR, spelledEate, rfl⟩
  rcases List.forall₂_cons_left_iff.mp spelledEate with ⟨e, _, -, spelledAte, rfl⟩
  rcases List.forall₂_cons_left_iff.mp spelledAte with ⟨a, _, spelledA, spelledTe, rfl⟩
  rcases List.forall₂_cons_left_iff.mp spelledTe with ⟨t, _, spelledT, spelledLast, rfl⟩
  rcases List.forall₂_cons_left_iff.mp spelledLast with ⟨last, _, -, nothing, rfl⟩
  cases nothing
  have other {letter character : Char} (plain : Character.IsPlainLetter letter)
      (spelledBy : Character.spells letter character = true) (different : letter ≠ 'e') :
      Character.spells 'e' character = false :=
    Character.spells_eq_false plain spelledBy (by decide) different
  -- Both letters E are followed by something else than the N of an ENGINE clause.
  have noN : Character.spells 'n' a = false :=
    Character.spells_eq_false (by decide) spelledA (by decide) (by decide)
  have noBlankN : Character.spells 'n' blank = false :=
    Character.spells_eq_false_of_blank (by decide) isBlank
  exact ⟨startsWith_engineClause _ _ (other (by decide) spelledC (by decide)),
    startsWith_engineClause _ _ (other (by decide) spelledR (by decide)),
    engineClause?_eq_none_of_second noN _ _,
    startsWith_engineClause _ _ (other (by decide) spelledA (by decide)),
    startsWith_engineClause _ _ (other (by decide) spelledT (by decide)),
    engineClause?_eq_none_of_second noBlankN _ _, trivial⟩

/-- No COMMENT starts within a marker. -/
theorem silent_comment_marker {opening gap closing : Text}
    (spelledOpening : Spelled ['c', 'r', 'e', 'a', 't', 'e'] opening)
    (blank : ∀ character ∈ gap, Character.isBlank character = true)
    (spelledClosing : Spelled ['t', 'a', 'b', 'l', 'e'] closing) (rest : Text) :
    Silent (word? "comment") (opening ++ gap ++ closing) rest := by
  rcases List.forall₂_cons_left_iff.mp spelledOpening with ⟨c, more, -, spelledMore, rfl⟩
  have foreign := foreign_inside_marker spelledMore blank spelledClosing
  rcases List.forall₂_cons_left_iff.mp spelledMore with ⟨r, _, spelledR, -, rfl⟩
  have noO : Character.spells 'o' r = false :=
    Character.spells_eq_false (by decide) spelledR (by decide) (by decide)
  exact ⟨word?_comment_eq_none_of_second noO _ _, (startsWith_word 'c' _).silent foreign rest⟩

/-- What the theories of comments and of ENGINE clauses need to know of a marker: its
last letter stands apart, since it may begin an ENGINE clause. -/
structure MarkerParts (front : Text) (last : Char) : Prop where
  characters : ∀ character ∈ front ++ [last], IsMarkerCharacter character
  spelledLast : Character.spells 'e' last = true
  noEngine : ∀ rest, Silent engineClause? front (last :: rest)
  unannotated : ∀ rest, Silent (word? "comment") (front ++ [last]) rest

theorem markerParts_of_tableMarker? {text rest : Text}
    (matched : tableMarker? text = some rest) :
    ∃ front last, text = front ++ last :: rest ∧ MarkerParts front last := by
  rcases tableMarker?_shape matched with
    ⟨opening, gap, closing, rfl, spelledOpening, nonempty, blank, spelledClosing⟩
  have characters : ∀ character ∈ opening ++ gap ++ closing, IsMarkerCharacter character := by
    intro character member
    rcases List.mem_append.mp member with member | inClosing
    · rcases List.mem_append.mp member with inOpening | inGap
      · exact isMarkerCharacter_of_spelled spelledOpening (by decide) character inOpening
      · exact .inl (blank character inGap)
    · exact isMarkerCharacter_of_spelled spelledClosing (by decide) character inClosing
  have unannotated := silent_comment_marker spelledOpening blank spelledClosing
  rcases List.exists_cons_of_ne_nil nonempty with ⟨first, gap, rfl⟩
  -- The last letter of TABLE is told apart from the others.
  have closingParts : ∃ tabl final, closing = tabl ++ final ∧
      Spelled ['t', 'a', 'b', 'l'] tabl ∧ Spelled ['e'] final :=
    ⟨closing.take 4, closing.drop 4, (List.take_append_drop 4 closing).symm,
      List.forall₂_take 4 spelledClosing, List.forall₂_drop 4 spelledClosing⟩
  rcases closingParts with ⟨tabl, final, rfl, spelledTabl, spelledFinal⟩
  rcases List.forall₂_cons_left_iff.mp spelledFinal with ⟨last, _, spelledLast, nothing, rfl⟩
  cases nothing
  rw [← List.append_assoc] at characters unannotated
  refine ⟨opening ++ first :: gap ++ tabl, last, by simp, characters, spelledLast, ?_,
    unannotated⟩
  intro rest
  rw [silent_append, silent_append]
  refine ⟨⟨?_, ?_⟩, ?_⟩
  · exact silent_engineClause_opening spelledOpening (blank first List.mem_cons_self) _
  · apply startsWith_engineClause.silent
    intro character member
    exact Character.spells_eq_false_of_blank (by decide) (blank character member)
  · apply startsWith_engineClause.silent
    exact spells_eq_false_of_spelled spelledTabl (by decide) (by decide)

/-! ## The start of a block -/

namespace MarkerParts

variable {front : Text} {last : Char} (parts : MarkerParts front last)

include parts

theorem engine?_eq {slice rest : Text} (offset : Nat) (whole : slice = front ++ last :: rest) :
    Block.engine? ⟨offset, slice⟩ =
      if (engineClause? ('E' :: rest)).isSome then some front.length
      else position? engineClause? (front.length + 1) rest := by
  subst whole
  rw [Block.engine?, position?_append_of_silent (parts.noEngine rest), position?,
    engineClause?_cons_of_spells parts.spelledLast, Nat.zero_add]

theorem length_front_le_cut {slice rest : Text} (offset : Nat)
    (whole : slice = front ++ last :: rest) :
    front.length ≤ (Block.engine? ⟨offset, slice⟩).getD slice.length := by
  rw [parts.engine?_eq offset whole]
  split
  · exact Nat.le_refl _
  · cases found : position? engineClause? (front.length + 1) rest with
    | none => simp [whole]
    | some position => exact Nat.le_of_succ_le (le_of_position?_eq_some found)

/-- Comments are removed behind a marker only. -/
theorem stripComments_append (rest : Text) :
    stripComments (front ++ [last] ++ rest) =
      front ++ [last] ++ stripFrom (some last) 0 true rest := by
  have plain : ∀ character ∈ front ++ [last], isQuote character = false ∧ character ≠ '/' := by
    intro character member
    have known := parts.characters character member
    exact ⟨known.unquoted, known.ne (by decide) (by decide)⟩
  have quiet : ∀ character ∈ front, character ≠ '#' ∧ character ≠ '-' := by
    intro character member
    have known := parts.characters character (List.mem_append_left _ member)
    exact ⟨known.ne (by decide) (by decide), known.ne (by decide) (by decide)⟩
  have lastKnown := parts.characters last (by simp)
  have noMargin : isMargin last = false :=
    isMargin_eq_false (Character.isBlank_eq_false_of_spells (by decide) parts.spelledLast)
  have noHash : last ≠ '#' := lastKnown.ne (by decide) (by decide)
  have noDash : last ≠ '-' := lastKnown.ne (by decide) (by decide)
  have noLine : Silent lineLength? (front ++ [last]) rest := by
    rw [silent_append]
    refine ⟨silent_lineLength quiet ?_, lineLength?_cons_eq_none noMargin noHash noDash rest,
      trivial⟩
    rintro character ⟨⟩
    exact ⟨noMargin, noHash, noDash⟩
  have stripped := stripFrom_plain plain (parts.unannotated rest) noLine none true
  simpa [stripComments] using stripped

theorem front_ne_nil {text rest : Text} (whole : text = front ++ last :: rest)
    (marked : (tableMarker? text).isSome = true) : front ≠ [] := by
  rintro rfl
  rcases Option.isSome_iff_exists.mp marked with ⟨after, matched⟩
  rcases head_of_tableMarker? matched with ⟨character, tail, equal, spelled⟩
  rcases List.cons_eq_cons.mp (whole.symm.trans equal) with ⟨rfl, -⟩
  have different := Character.spells_eq_false (by decide) parts.spelledLast
    (show Character.IsPlainLetter 'c' by decide) (by decide)
  simp [spelled] at different

end MarkerParts

/-- A block starts with its whole marker unless the last letter of the marker begins an
ENGINE clause. -/
theorem declaration_starts_with_marker_iff {block : Block} {after : Text}
    (matched : tableMarker? block.slice = some after) :
    ∃ marker, block.slice = marker ++ after ∧
      ((∃ tail, block.declaration = marker ++ tail) ↔ engineClause? ('E' :: after) = none) := by
  rcases markerParts_of_tableMarker? matched with ⟨front, last, whole, parts⟩
  refine ⟨front ++ [last], by simp [whole], ?_⟩
  have engine := parts.engine?_eq block.offset whole
  rw [Block.declaration_eq, Block.raw]
  cases clause : engineClause? ('E' :: after) with
  | some rest =>
      -- The clause starts at the last letter, so the block is too short for the marker.
      have cut : block.slice.take (block.engine?.getD block.slice.length) = front := by
        rw [show block.engine? = some front.length by simpa [clause] using engine, whole]
        simp
      rw [cut]
      simp only [reduceCtorEq, iff_false, not_exists]
      intro tail equal
      have bounded := length_stripFrom_le none 0 true front
      have lengths := congrArg List.length equal
      simp only [stripComments, List.length_append, List.length_singleton] at lengths bounded
      omega
  | none =>
      have later : front.length + 1 ≤ block.engine?.getD block.slice.length := by
        simp only [clause, Option.isSome_none, Bool.false_eq_true, if_false] at engine
        rw [show block.engine? = position? engineClause? (front.length + 1) after from engine]
        cases found : position? engineClause? (front.length + 1) after with
        | none => simp [whole]
        | some position => exact le_of_position?_eq_some found
      have cut : block.slice.take (block.engine?.getD block.slice.length) =
          front ++ [last] ++
            after.take (block.engine?.getD block.slice.length - (front.length + 1)) := by
        generalize block.engine?.getD block.slice.length = stop at later
        rw [show block.slice = front ++ [last] ++ after by simp [whole], List.take_append,
          List.take_of_length_le (by simpa using later)]
        simp
      rw [cut, parts.stripComments_append]
      exact ⟨fun _ => rfl, fun _ => ⟨_, rfl⟩⟩

/-- Every block starts with the letter C of its marker. -/
theorem declaration_head {block : Block} (marked : (tableMarker? block.slice).isSome = true) :
    ∃ character tail, block.declaration = character :: tail ∧
      Character.spells 'c' character = true := by
  rcases Option.isSome_iff_exists.mp marked with ⟨after, matched⟩
  rcases markerParts_of_tableMarker? matched with ⟨front, last, whole, parts⟩
  rcases List.exists_cons_of_ne_nil (parts.front_ne_nil whole marked) with ⟨character, more, rfl⟩
  rcases head_of_tableMarker? matched with ⟨first, _, equal, spelled⟩
  rcases List.cons_eq_cons.mp (whole.symm.trans equal) with ⟨rfl, -⟩
  have cut := parts.length_front_le_cut block.offset whole
  have known := parts.characters character (by simp)
  -- The cut leaves the first letter of the marker standing.
  have positive : 1 ≤ block.engine?.getD block.slice.length := Nat.le_trans (by simp) cut
  rcases Nat.exists_eq_add_of_le' positive with ⟨count, stop⟩
  have raw : block.raw = character :: (more ++ last :: after).take count := by
    rw [Block.raw, stop, whole]
    rfl
  have unnoted : word? "comment" (character :: (more ++ last :: after).take count) = none := by
    apply word?_eq_none_of_append ((more ++ last :: after).drop count)
    rw [List.cons_append, List.take_append_drop]
    simpa using (parts.unannotated after).1
  have solid := Character.isBlank_eq_false_of_spells (by decide) spelled
  have unlined := lineLength?_cons_eq_none (isMargin_eq_false solid)
    (known.ne (by decide) (by decide)) (known.ne (by decide) (by decide))
    ((more ++ last :: after).take count)
  have single := pieceAt_eq_single none known.unquoted
    (known.ne (by decide) (by decide)) unnoted unlined
  refine ⟨character, stripFrom (some character) 0 true ((more ++ last :: after).take count),
    ?_, spelled⟩
  rw [Block.declaration_eq, raw, stripComments]
  simp only [stripFrom, single, if_true, Nat.sub_self]

end Sql

end SchemaSeed
