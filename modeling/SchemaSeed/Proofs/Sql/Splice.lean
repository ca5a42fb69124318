import SchemaSeed.Proofs.Sql.Segment

/-! A part in the middle of a document.  Where no marker and no ENGINE clause starts in the
part and none that starts before it runs into it, the document is cut as if the part were not
there: at most one block holds the part, between what stood before it since the last marker
and what stands behind it up to the next one. -/

namespace SchemaSeed

namespace Sql

/-! ## Matches that end where a part ends -/

/-- Whether a match starts in the part does not depend on the `rest` that follows it. -/
def Within (matcher : Text → Option α) : (part rest : Text) → Prop
  | [], _ => True
  | character :: part, rest =>
      (matcher (character :: (part ++ rest))).isSome = (matcher (character :: part)).isSome ∧
        Within matcher part rest

instance (matcher : Text → Option α) (part rest : Text) :
    Decidable (Within matcher part rest) := by
  induction part with
  | nil => exact .isTrue trivial
  | cons character part decide =>
      exact @instDecidableAnd _ _ (instDecidableEqBool _ _) decide

section Within

variable {matcher : Text → Option α} {left right : Text}

theorem within_of_bars {matcher : Text → Option Text} {character : Char}
    (bars : Bars matcher character) (part rest : Text) :
    Within matcher part (character :: rest) := by
  induction part with
  | nil => trivial
  | cons first part induction =>
      have barred := bars (first :: part) rest
      rw [List.cons_append] at barred
      exact ⟨by rw [barred, Option.isSome_map], induction⟩

theorem position?_append (within : Within matcher left right) (passed : Nat) :
    position? matcher passed (left ++ right) =
      (position? matcher passed left).or (position? matcher (passed + left.length) right) := by
  induction left generalizing passed with
  | nil => rfl
  | cons character left induction =>
      have same := within.1
      simp only [List.cons_append, position?, same]
      split
      · rfl
      · rw [induction within.2, List.length_cons, Nat.add_assoc, Nat.add_comm 1]

theorem position?_add (shift passed : Nat) (text : Text) :
    position? matcher (shift + passed) text = (position? matcher passed text).map (shift + ·) := by
  induction text generalizing passed with
  | nil => rfl
  | cons character text induction =>
      simp only [position?]
      split
      · rfl
      · exact induction (passed + 1)

theorem position?_le {passed position : Nat} {text : Text}
    (found : position? matcher passed text = some position) :
    position ≤ passed + text.length := by
  induction text generalizing passed with
  | nil => cases found
  | cons character text induction =>
      simp only [position?] at found
      rw [List.length_cons]
      split at found
      · cases found
        omega
      · have bound := induction found
        omega

theorem isSome_position? (passed : Nat) (text : Text) :
    (position? matcher passed text).isSome = occurs matcher text := by
  induction text generalizing passed with
  | nil => rfl
  | cons character text induction =>
      have later := induction (passed + 1)
      simp only [occurs] at later
      simp only [position?, occurs, search?, Option.isSome_or, ← later]
      cases (matcher (character :: text)).isSome <;> simp

end Within

/-! ## Cuts -/

namespace Cut

/-- What stands behind the last marker of a text, the marker included. -/
def last (text : Text) : Text :=
  (ofText text).slices.getLast?.getD []

theorem last_of_slices {text slice : Text} {earlier : List Text}
    (slices : (ofText text).slices = earlier ++ [slice]) : last text = slice := by
  simp [last, slices]

theorem last_suffix (text : Text) : last text <:+ text := by
  have whole := lead_append_slices text
  rcases List.eq_nil_or_concat (ofText text).slices with slices | ⟨earlier, slice, slices⟩
  · rw [last, slices]
    exact List.nil_suffix
  · rw [List.concat_eq_append] at slices
    rw [slices, List.flatten_append, List.flatten_singleton, ← List.append_assoc] at whole
    rw [last_of_slices slices]
    exact ⟨_, whole⟩

theorem ofText_of_silent {part rest : Text} (silent : Silent tableMarker? part rest) :
    (ofText (part ++ rest)).lead = part ++ (ofText rest).lead ∧
      (ofText (part ++ rest)).slices = (ofText rest).slices := by
  induction part with
  | nil => exact ⟨rfl, rfl⟩
  | cons character part induction =>
      rcases induction silent.2 with ⟨lead, slices⟩
      simp only [List.cons_append, ofText_cons, push, text_ofText, silent.1, Option.isSome_none,
        Bool.false_eq_true, if_false, lead, slices]
      exact ⟨trivial, trivial⟩

/-- A part that markers do not touch belongs to the last slice of what stands before it. -/
theorem slices_splice {left part right : Text}
    (within : Within tableMarker? left (part ++ right))
    (silent : Silent tableMarker? part right) :
    ((ofText left).slices = [] ∧
        (ofText (left ++ (part ++ right))).slices = (ofText right).slices) ∨
      ∃ earlier slice, (ofText left).slices = earlier ++ [slice] ∧
        (ofText (left ++ (part ++ right))).slices =
          earlier ++ (slice ++ (part ++ (ofText right).lead)) :: (ofText right).slices := by
  suffices whole :
      ((ofText left).slices = [] ∧
          (ofText (left ++ (part ++ right))).lead =
            (ofText left).lead ++ (part ++ (ofText right).lead) ∧
          (ofText (left ++ (part ++ right))).slices = (ofText right).slices) ∨
        ∃ earlier slice, (ofText left).slices = earlier ++ [slice] ∧
          (ofText (left ++ (part ++ right))).lead = (ofText left).lead ∧
          (ofText (left ++ (part ++ right))).slices =
            earlier ++ (slice ++ (part ++ (ofText right).lead)) :: (ofText right).slices by
    rcases whole with ⟨none, -, slices⟩ | ⟨earlier, slice, some, -, slices⟩
    · exact .inl ⟨none, slices⟩
    · exact .inr ⟨earlier, slice, some, slices⟩
  induction left with
  | nil => exact .inl ⟨rfl, ofText_of_silent silent⟩
  | cons character left induction =>
      have marked := within.1
      simp only [List.cons_append, ofText_cons, push, text_ofText, marked]
      rcases induction within.2 with ⟨none, lead, slices⟩ | ⟨earlier, slice, some, lead, slices⟩
      · rw [none, lead, slices]
        split
        · exact .inr ⟨[], character :: (ofText left).lead, rfl, rfl, rfl⟩
        · exact .inl ⟨rfl, rfl, rfl⟩
      · rw [some, lead, slices]
        split
        · exact .inr ⟨(character :: (ofText left).lead) :: earlier, slice, rfl, rfl, rfl⟩
        · exact .inr ⟨earlier, slice, rfl, rfl, rfl⟩

end Cut

/-! ## Blocks -/

theorem segment_eq (document : Text) :
    segment document =
      (Cut.ofText document).slices.map fun slice => Block.declaration ⟨0, slice⟩ := by
  have shifted : ∀ (slices : List Text) (offset : Nat),
      (blocksFrom offset slices).map Block.declaration =
        slices.map fun slice => Block.declaration ⟨0, slice⟩ := by
    intro slices
    induction slices with
    | nil => intro offset; rfl
    | cons slice rest induction =>
        intro offset
        rw [blocksFrom, List.map_cons, List.map_cons, induction]
        rfl
  exact shifted _ _

theorem isSome_engineClause?_equals (left right : Text) :
    (engineClause? (left ++ '=' :: right)).isSome = (engineClause? (left ++ ['='])).isSome := by
  have bars : Bars (word? "engine") '=' := bars_word (by decide)
  have solid : Character.isBlank '=' = false := by decide
  rw [engineClause?, engineClause?, bars left right, bars left []]
  cases word? "engine" left with
  | none => rfl
  | some rest =>
      simp only [Option.map_some, Option.bind_some, skipBlanks_append_of_not_blank solid]
      cases Text.skipBlanks rest with
      | nil => rfl
      | cons first rest =>
          by_cases equals : first = '='
          · subst equals
            rfl
          · simp [equals]

/-- The ENGINE clause of a slice is found in it, whatever follows it. -/
theorem position?_of_engine {slice : Text} (engine : occurs engineClause? slice = true)
    (rest : Text) (passed : Nat) :
    position? engineClause? passed (slice ++ rest) = position? engineClause? passed slice := by
  induction slice generalizing passed with
  | nil => cases engine
  | cons character slice induction =>
      have equals : '=' ∈ character :: slice := by
        by_contra absent
        have none := occurs_eq_false_of_all engineClause?_eq_none_of_no_equals
          fun other member => show other ≠ '=' from fun same => absent (same ▸ member)
        rw [engine] at none
        cases none
      have here : (engineClause? (character :: (slice ++ rest))).isSome =
          (engineClause? (character :: slice)).isSome := by
        rcases List.append_of_mem equals with ⟨front, behind, whole⟩
        rw [← List.cons_append, whole, List.append_assoc, List.cons_append,
          isSome_engineClause?_equals, isSome_engineClause?_equals front behind]
      simp only [List.cons_append, position?, here]
      split
      · rfl
      · rename_i unmatched
        rw [Bool.not_eq_true, Option.isSome_eq_false_iff, Option.isNone_iff_eq_none] at unmatched
        rw [occurs, search?, unmatched, Option.none_or] at engine
        exact induction engine (passed + 1)

theorem raw_of_engine {slice : Text} (engine : occurs engineClause? slice = true) (rest : Text) :
    Block.raw ⟨0, slice ++ rest⟩ = Block.raw ⟨0, slice⟩ := by
  have found := @isSome_position? _ engineClause? 0 slice
  simp only [Block.raw, Block.engine?, position?_of_engine engine]
  cases inSlice : position? engineClause? 0 slice with
  | none =>
      rw [inSlice, engine] at found
      cases found
  | some position =>
      have bound := position?_le inSlice
      rw [Nat.zero_add] at bound
      exact List.take_append_of_le_length bound

theorem raw_splice {slice part rest : Text}
    (within : Within engineClause? slice (part ++ rest))
    (silent : Silent engineClause? part rest) :
    Block.raw ⟨0, slice ++ (part ++ rest)⟩ =
      if occurs engineClause? slice then Block.raw ⟨0, slice⟩
      else slice ++ (part ++ Block.raw ⟨0, rest⟩) := by
  have found := @isSome_position? _ engineClause? 0 slice
  simp only [Block.raw, Block.engine?, position?_append within,
    position?_append_of_silent silent, ← found]
  cases inSlice : position? engineClause? 0 slice with
  | some position =>
      have bound := position?_le inSlice
      rw [Nat.zero_add] at bound
      simp only [Option.some_or, Option.getD_some, Option.isSome_some, if_true]
      exact List.take_append_of_le_length bound
  | none =>
      have shifted := @position?_add _ engineClause?
        (slice.length + part.length) 0 rest
      simp only [Option.none_or, Option.isSome_none, Bool.false_eq_true, if_false, Nat.zero_add]
      rw [Nat.add_zero] at shifted
      rw [shifted, ← List.append_assoc, ← List.append_assoc]
      cases position? engineClause? 0 rest with
      | some position =>
          rw [Option.map_some, Option.getD_some, Option.getD_some, ← List.length_append,
            List.take_length_add_append]
      | none =>
          rw [Option.map_none, Option.getD_none, Option.getD_none, List.take_length,
            List.take_length]

end Sql

end SchemaSeed
