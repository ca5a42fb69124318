import SchemaSeed.Proofs.Sql.Matching
import SchemaSeed.Proofs.Text.Letter
import SchemaSeed.Sql.Block

/-! Segmentation of appended documents.  Only the first letter of a marker can be a
letter C, so no marker starts inside another one and none runs over the start of a
marker.  A document may therefore be cut wherever a marker stands, and the blocks on
either side are the blocks of the two parts. -/

namespace SchemaSeed

namespace Sql

theorem tableMarker?_nil : tableMarker? [] = none := rfl

/-- A marker starts with a letter C. -/
theorem head_of_tableMarker? {text rest : Text} (matched : tableMarker? text = some rest) :
    ∃ character after, text = character :: after ∧ Character.spells 'c' character = true := by
  cases text with
  | nil => simp [tableMarker?_nil] at matched
  | cons character after =>
      refine ⟨character, after, rfl, ?_⟩
      by_contra foreign
      simp [startsWith_tableMarker character after (by simpa using foreign)] at matched

theorem foreign_of_spells_c {character : Char} (spelled : Character.spells 'c' character = true) :
    ∀ letter ∈ ['r', 'e', 'a', 't', 'e', 't', 'a', 'b', 'l', 'e'],
      Character.spells letter character = false := by
  have plain : ∀ letter ∈ ['r', 'e', 'a', 't', 'e', 't', 'a', 'b', 'l', 'e'],
      Character.IsPlainLetter letter ∧ 'c' ≠ letter := by decide
  intro letter member
  exact Character.spells_eq_false (by decide) spelled (plain letter member).1
    (plain letter member).2

/-- No marker that starts earlier runs over the start of another one. -/
theorem tableMarker?_cons_append {right : Text} (marked : (tableMarker? right).isSome = true)
    (first : Char) (left : Text) :
    tableMarker? (first :: (left ++ right)) =
      (tableMarker? (first :: left)).map (· ++ right) := by
  rcases Option.isSome_iff_exists.mp marked with ⟨rest, matched⟩
  rcases head_of_tableMarker? matched with ⟨character, after, rfl, spelled⟩
  exact phrase?_cons_append (foreign_of_spells_c spelled)
    (Character.isBlank_eq_false_of_spells (by decide) spelled) first left after

namespace Cut

theorem lead_of_marked {document : Text} (marked : (tableMarker? document).isSome = true) :
    (ofText document).lead = [] := by
  cases document with
  | nil => rfl
  | cons character document => simp [push, marked]

/-- A document that is cut at a marker has the slices of both parts. -/
theorem ofText_append {left right : Text} (marked : (tableMarker? right).isSome = true) :
    ofText (left ++ right) =
      ⟨left ++ right, (ofText left).lead, (ofText left).slices ++ (ofText right).slices⟩ := by
  induction left with
  | nil =>
      have lead := lead_of_marked marked
      have text := text_ofText right
      have nothing : ofText [] = empty := rfl
      rcases cut : ofText right with ⟨whole, before, slices⟩
      rw [cut] at lead text
      simp only at lead text
      simp [cut, lead, text, nothing, empty]
  | cons character left induction =>
      have unbroken := tableMarker?_cons_append marked character left
      simp only [List.cons_append, ofText_cons, push, induction, text_ofText, unbroken,
        Option.isSome_map]
      split <;> rfl

end Cut

theorem declarations_blocksFrom (offset shift : Nat) (slices : List Text) :
    (blocksFrom offset slices).map Block.declaration =
      (blocksFrom shift slices).map Block.declaration := by
  induction slices generalizing offset shift with
  | nil => rfl
  | cons slice rest induction =>
      simp only [blocksFrom, List.map_cons]
      rw [induction (offset + slice.length) (shift + slice.length)]
      rfl

theorem blocksFrom_append (offset : Nat) (left right : List Text) :
    blocksFrom offset (left ++ right) =
      blocksFrom offset left ++ blocksFrom (offset + left.flatten.length) right := by
  induction left generalizing offset with
  | nil => simp [blocksFrom]
  | cons slice rest induction =>
      simp [blocksFrom, induction, Nat.add_assoc]

/-- The declarations of a document that is cut at a marker are those of both parts. -/
theorem segment_append {left right : Text} (marked : (tableMarker? right).isSome = true) :
    segment (left ++ right) = segment left ++ segment right := by
  simp only [segment, blocks, Cut.ofText_append marked, blocksFrom_append, List.map_append]
  congr 1
  exact declarations_blocksFrom _ _ _

theorem segment_append_of_cut {left right : Text}
    (cut : right = [] ∨ (tableMarker? right).isSome = true) :
    segment (left ++ right) = segment left ++ segment right := by
  rcases cut with rfl | marked
  · have nothing : segment [] = [] := rfl
    simp [nothing]
  · exact segment_append marked

theorem marked_append {left right : Text} (marked : (tableMarker? left).isSome = true)
    (cut : right = [] ∨ (tableMarker? right).isSome = true) :
    (tableMarker? (left ++ right)).isSome = true := by
  rcases cut with rfl | markedRight
  · simpa using marked
  · rcases Option.isSome_iff_exists.mp marked with ⟨rest, matched⟩
    rcases head_of_tableMarker? matched with ⟨character, after, rfl, -⟩
    rw [List.cons_append, tableMarker?_cons_append markedRight, Option.isSome_map]
    exact marked

theorem slices_of_unmarked {text : Text} (unmarked : occurs tableMarker? text = false) :
    (Cut.ofText text).slices = [] := by
  induction text with
  | nil => rfl
  | cons character text induction =>
      simp only [occurs, search?, Option.isSome_or, Bool.or_eq_false_iff] at unmarked
      simp only [Cut.ofText_cons, Cut.push, Cut.text_ofText, unmarked.1, Bool.false_eq_true,
        if_false]
      exact induction unmarked.2

/-- A document with a marker at its start and no other one has a single block. -/
theorem segment_of_single_marker {document : Text}
    (marked : (tableMarker? document).isSome = true)
    (single : occurs tableMarker? document.tail = false) :
    segment document = [Block.declaration ⟨0, document⟩] := by
  cases document with
  | nil => cases marked
  | cons character text =>
      have rest : (Cut.ofText text).slices = [] := slices_of_unmarked single
      have whole := Cut.lead_append_slices text
      rw [rest, List.flatten_nil, List.append_nil] at whole
      have slices : (Cut.ofText (character :: text)).slices = [character :: text] := by
        simp only [Cut.ofText_cons, Cut.push, Cut.text_ofText, marked, if_true]
        rw [rest, whole]
      rw [segment, blocks, slices, Cut.lead_of_marked marked]
      rfl

/-! ## The characters of a marker -/

theorem tableMarker?_shape {text rest : Text} (matched : tableMarker? text = some rest) :
    ∃ opening gap closing, text = opening ++ gap ++ closing ++ rest ∧
      Spelled ['c', 'r', 'e', 'a', 't', 'e'] opening ∧ gap ≠ [] ∧
      (∀ character ∈ gap, Character.isBlank character = true) ∧
      Spelled ['t', 'a', 'b', 'l', 'e'] closing :=
  phrase?_eq_some matched

/-- Behind its first letter a marker holds no letter C. -/
theorem foreign_inside_marker {more gap closing : Text}
    (spelledMore : Spelled ['r', 'e', 'a', 't', 'e'] more)
    (blank : ∀ character ∈ gap, Character.isBlank character = true)
    (spelledClosing : Spelled ['t', 'a', 'b', 'l', 'e'] closing) :
    ∀ character ∈ more ++ gap ++ closing, Character.spells 'c' character = false := by
  intro character member
  rcases List.mem_append.mp member with member | inClosing
  · rcases List.mem_append.mp member with inMore | inGap
    · exact spells_eq_false_of_spelled spelledMore (by decide) (by decide) character inMore
    · exact Character.spells_eq_false_of_blank (by decide) (blank character inGap)
  · exact spells_eq_false_of_spelled spelledClosing (by decide) (by decide) character inClosing

/-- No marker starts inside another one. -/
theorem disjoint_tableMarker : Disjoint tableMarker? := by
  intro character text rest matched
  rcases tableMarker?_shape matched with
    ⟨opening, gap, closing, whole, spelledOpening, -, blank, spelledClosing⟩
  rcases List.forall₂_cons_left_iff.mp spelledOpening with ⟨first, more, -, spelledMore, rfl⟩
  rcases List.cons_eq_cons.mp whole with ⟨rfl, inside⟩
  exact ⟨more ++ gap ++ closing, inside,
    startsWith_tableMarker.silent (foreign_inside_marker spelledMore blank spelledClosing) rest⟩

/-- The blocks of a document stand where a search finds the markers. -/
theorem offsets_blocks (document : Text) :
    (blocks document).map (·.offset) = findAll tableMarker? 0 0 document := by
  have accepted : ∀ (text : Text) (position : Nat),
      (blocksFrom (position + (Cut.ofText text).lead.length) (Cut.ofText text).slices).map
        (·.offset) = acceptedAt tableMarker? position text := by
    intro text
    induction text with
    | nil => intro position; rfl
    | cons character text induction =>
        intro position
        simp only [Cut.ofText_cons, Cut.push, Cut.text_ofText, acceptedAt, ← induction]
        split
        · simp [blocksFrom, Nat.add_assoc, Nat.add_comm 1]
        · simp [Nat.add_assoc, Nat.add_comm 1]
  have found := findAll_eq_acceptedAt disjoint_tableMarker [] document trivial 0
  simp only [List.length_nil, List.nil_append] at found
  rw [found, ← accepted, Nat.zero_add, blocks]

/-! ## The slices behind the blocks -/

namespace Block

/-- What is left of a slice once the table's options are cut off. -/
def raw (block : Block) : Text :=
  block.slice.take (block.engine?.getD block.slice.length)

theorem declaration_eq (block : Block) : block.declaration = stripComments block.raw := rfl

theorem length_raw_le (block : Block) : block.raw.length ≤ block.slice.length := by
  rw [raw, List.length_take]
  exact Nat.min_le_right _ _

end Block

theorem slice_of_mem_blocksFrom {offset : Nat} {slices : List Text} {block : Block}
    (member : block ∈ blocksFrom offset slices) :
    ∃ before after, slices = before ++ block.slice :: after ∧
      block.offset = offset + before.flatten.length := by
  induction slices generalizing offset with
  | nil => cases member
  | cons slice rest induction =>
      rcases List.mem_cons.mp member with rfl | later
      · exact ⟨[], rest, rfl, rfl⟩
      · rcases induction later with ⟨before, after, rfl, place⟩
        exact ⟨slice :: before, after, rfl, by simp [place, Nat.add_assoc]⟩

/-- The slice of a block is what its document holds at its offset. -/
theorem slice_at_offset {document : Text} {block : Block} (member : block ∈ blocks document) :
    block.slice <+: document.drop block.offset := by
  rcases slice_of_mem_blocksFrom member with ⟨before, after, slices, place⟩
  have whole := Cut.lead_append_slices document
  have dropped : document.drop block.offset = block.slice ++ after.flatten := by
    rw [← whole, slices, place]
    simp
  rw [dropped]
  exact List.prefix_append _ _

theorem blocksFrom_disjoint (offset : Nat) (slices : List Text) :
    (blocksFrom offset slices).Pairwise fun earlier later =>
      earlier.offset + earlier.raw.length ≤ later.offset := by
  induction slices generalizing offset with
  | nil => exact .nil
  | cons slice rest induction =>
      refine .cons ?_ (induction _)
      intro later member
      rcases slice_of_mem_blocksFrom member with ⟨before, after, -, place⟩
      have bounded := Block.length_raw_le ⟨offset, slice⟩
      simp only at bounded ⊢
      omega

/-- What follows the first slice of a cut starts with a marker again. -/
theorem marked_slices {document : Text} (cut : (Cut.ofText document).slices ≠ []) :
    (tableMarker? (Cut.ofText document).slices.flatten).isSome = true := by
  induction document with
  | nil => exact absurd rfl cut
  | cons character document induction =>
      simp only [Cut.ofText_cons, Cut.push, Cut.text_ofText] at cut ⊢
      split
      · rename_i marked
        simpa [Cut.lead_append_slices] using marked
      · rename_i unmarked
        simp only [unmarked] at cut
        exact induction cut

/-- Every slice starts with a marker of its own. -/
theorem marked_slice {document slice : Text} (member : slice ∈ (Cut.ofText document).slices) :
    (tableMarker? slice).isSome = true := by
  induction document with
  | nil => cases member
  | cons character document induction =>
      simp only [Cut.ofText_cons, Cut.push, Cut.text_ofText] at member
      split at member
      · rename_i marked
        rcases List.mem_cons.mp member with rfl | later
        · have whole := Cut.lead_append_slices document
          by_cases uncut : (Cut.ofText document).slices = []
          · have lead : (Cut.ofText document).lead = document := by simpa [uncut] using whole
            rw [lead]
            exact marked
          · have unbroken := tableMarker?_cons_append (marked_slices uncut) character
              (Cut.ofText document).lead
            rw [whole] at unbroken
            simpa [unbroken] using marked
        · exact induction later
      · exact induction member

theorem marked_block {document : Text} {block : Block} (member : block ∈ blocks document) :
    (tableMarker? block.slice).isSome = true := by
  rcases slice_of_mem_blocksFrom member with ⟨before, after, slices, -⟩
  exact marked_slice (slices ▸ List.mem_append_right _ List.mem_cons_self)

end Sql

end SchemaSeed
