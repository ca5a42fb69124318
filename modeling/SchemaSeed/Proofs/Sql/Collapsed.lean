import SchemaSeed.Proofs.Column.Items
import SchemaSeed.Proofs.Sql.Gap

/-! Pieces of a block are read collapsed.  Names and markers are found in collapsed text where
they are found in the text itself. -/

namespace SchemaSeed

namespace Sql

/-! ## Names -/

/-- A name in backticks holds no blanks, so that it is found in squeezed text where it is
found in the text. -/
theorem quotedName?_fst_squeezed {text short : Text} (squeezed : Text.Squeezed false text short)
    (character : Char) :
    (quotedName? (character :: text)).map (·.1) =
      (quotedName? (character :: short)).map (·.1) := by
  cases found : quotedName? (character :: short) with
  | some pair =>
      rcases quotedName?_squeezed squeezed found with ⟨after, original, -⟩
      rw [original]
      rfl
  | none =>
      rcases squeezed.takeWhile_eq isNameCharacter_of_isBlank with ⟨same, remaining⟩
      rw [← Option.not_isSome_iff_eq_none, isSome_quotedName?, ← same,
        ← remaining.head?_eq_some_iff (by decide), ← isSome_quotedName?,
        Option.not_isSome_iff_eq_none] at found
      rw [found]

theorem firstName?_squeezed {gap : Bool} {text short : Text}
    (squeezed : Text.Squeezed gap text short) : firstName? text = firstName? short := by
  have unnamed (character : Char) (blank : Character.isBlank character = true) (rest : Text) :
      firstName? (character :: rest) = firstName? rest := by
    refine firstName?_cons ?_ rest
    rintro rfl
    cases blank
  induction squeezed with
  | @done _ text blank =>
      induction text with
      | nil => rfl
      | cons character text induction =>
          rw [List.forall_mem_cons] at blank
          rw [unnamed _ blank.1, induction blank.2]
  | solid _ later induction =>
      simp only [firstName?, search?, Option.map_or, quotedName?_fst_squeezed later] at induction ⊢
      rw [induction]
  | space blank _ induction => rw [unnamed _ blank, unnamed ' ' (by decide), induction]
  | skipped blank _ induction => rw [unnamed _ blank, induction]

theorem splitName_fst (declaration : Text) :
    (Column.splitName declaration).1 = (quotedName? declaration.skipBlanks).map (·.1) := by
  rw [Column.splitName]
  cases quotedName? declaration.skipBlanks <;> rfl

theorem splitName_fst_collapse (declaration : Text) :
    (Column.splitName declaration.collapse).1 = (Column.splitName declaration).1 := by
  rw [splitName_fst, splitName_fst]
  rcases (Text.squeezed_collapse declaration).1.skipBlanks_cases with
    ⟨nothing, nothingShort⟩ | ⟨character, rest, restShort, -, front, frontShort, later⟩
  · rw [nothing, nothingShort]
  · rw [front, frontShort, quotedName?_fst_squeezed later]

/-! ## Markers -/

theorem eq_space_of_mem_squeeze {gap : Bool} {text : Text} {character : Char}
    (member : character ∈ Text.squeeze gap text) (blank : Character.isBlank character = true) :
    character = ' ' := by
  induction text generalizing gap with
  | nil => cases member
  | cons first text induction =>
      simp only [Text.squeeze] at member
      split at member
      · split at member
        · exact induction member
        · exact (List.mem_cons.mp member).elim id induction
      · rename_i solid
        rcases List.mem_cons.mp member with rfl | later
        · exact absurd blank solid
        · exact induction later

theorem occurs_tableMarker?_collapse (text : Text) :
    occurs tableMarker? text.collapse = occurs tableMarker? text := by
  have reads : ReadsWords tableMarker? := readsWords_phrase ⟨nofun, nofun⟩ (by decide)
  have trailing (left : Text) (count : Nat) :
      occurs tableMarker? (left ++ List.replicate count ' ') = occurs tableMarker? left := by
    induction count with
    | zero => rw [List.replicate_zero, List.append_nil]
    | succ count induction =>
        rw [List.replicate_succ', ← List.append_assoc, occurs, search?_trailing reads,
          Option.isSome_map, ← occurs, induction]
  have squeezed : occurs tableMarker? (Text.squeeze true text) = occurs tableMarker? text :=
    occurs_squeeze (phrase?_squeeze (solidLetters_of_codes (by decide))
      (solidLetters_of_codes (by decide))) reads.leading true text
  rw [← @List.rdropWhile_append_rtakeWhile _ Character.isBlank (Text.squeeze true text),
    ← Text.collapse_eq] at squeezed
  have spaces : ∀ character ∈ (Text.squeeze true text).rtakeWhile Character.isBlank,
      character = ' ' := fun character member =>
    eq_space_of_mem_squeeze ((List.rtakeWhile_suffix _ _).subset member)
      (List.mem_rtakeWhile_imp member)
  rwa [List.eq_replicate_of_mem spaces, trailing] at squeezed

end Sql

end SchemaSeed
