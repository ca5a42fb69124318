import SchemaSeed.Proofs.Lists
import SchemaSeed.Text.Blank

/-! The words of a text.  A blank ends one word and belongs to none, so the words of
appended texts can be read off their parts, and a text whose blanks are single spaces
between words is what collapsing gives back. -/

namespace SchemaSeed

namespace Text

theorem wordsOnto_nil (words : List Text) (current : Text) :
    wordsOnto words current [] =
      (if current.isEmpty then words else current.reverse :: words).reverse :=
  rfl

theorem wordsOnto_blank_cons {character : Char} (blank : Character.isBlank character = true)
    (words : List Text) (current text : Text) :
    wordsOnto words current (character :: text) =
      wordsOnto (if current.isEmpty then words else current.reverse :: words) [] text :=
  if_pos blank

theorem wordsOnto_solid_cons {character : Char} (solid : Character.isBlank character = false)
    (words : List Text) (current text : Text) :
    wordsOnto words current (character :: text) = wordsOnto words (character :: current) text :=
  if_neg (ne_true_of_eq_false solid)

theorem wordsOnto_eq (words : List Text) (current text : Text) :
    wordsOnto words current text = words.reverse ++ wordsOnto [] current text := by
  induction text generalizing words current with
  | nil => by_cases empty : current.isEmpty = true <;> simp [wordsOnto_nil, empty]
  | cons character text induction =>
      cases blank : Character.isBlank character with
      | true =>
          rw [wordsOnto_blank_cons blank, wordsOnto_blank_cons blank, induction,
            induction (if current.isEmpty then [] else [current.reverse])]
          by_cases empty : current.isEmpty = true <;> simp [empty]
      | false =>
          rw [wordsOnto_solid_cons blank, wordsOnto_solid_cons blank]
          exact induction words (character :: current)

/-- A word that was begun is the start of the first word. -/
theorem wordsOnto_of_begun {current : Text} (begun : current ≠ []) (text : Text) :
    ∃ tail rest, wordsOnto [] current text = (current.reverse ++ tail) :: rest := by
  induction text generalizing current with
  | nil => exact ⟨[], [], by simp [wordsOnto_nil, begun]⟩
  | cons character text induction =>
      cases blank : Character.isBlank character with
      | true =>
          refine ⟨[], wordsOnto [] [] text, ?_⟩
          rw [wordsOnto_blank_cons blank, wordsOnto_eq]
          simp [begun]
      | false =>
          rcases induction (List.cons_ne_nil character current) with ⟨tail, rest, equal⟩
          exact ⟨character :: tail, rest, by simp [wordsOnto_solid_cons blank, equal]⟩

theorem join_cons (separator first : Text) (rest : List Text) :
    join separator (first :: rest) = first ++ rest.flatMap (separator ++ ·) := by
  induction rest generalizing first with
  | nil => simp
  | cons second rest induction =>
      rw [join_cons_cons, induction, List.flatMap_cons, List.append_assoc, List.append_assoc]

theorem mem_of_mem_join {separator : Text} {parts : List Text} {character : Char}
    (member : character ∈ join separator parts) :
    character ∈ separator ∨ ∃ part ∈ parts, character ∈ part := by
  cases parts with
  | nil => cases member
  | cons first rest =>
      rw [join_cons, List.mem_append, List.mem_flatMap] at member
      rcases member with here | ⟨part, among, inside⟩
      · exact .inr ⟨first, List.mem_cons_self, here⟩
      · rcases List.mem_append.mp inside with between | here
        · exact .inl between
        · exact .inr ⟨part, List.mem_cons_of_mem _ among, here⟩

theorem length_le_join {separator part : Text} {parts : List Text} (member : part ∈ parts) :
    part.length ≤ (join separator parts).length := by
  induction parts with
  | nil => cases member
  | cons first rest induction =>
      rw [join_cons, List.length_append]
      rcases List.mem_cons.mp member with rfl | later
      · exact Nat.le_add_right _ _
      · cases rest with
        | nil => cases later
        | cons second rest =>
            have behind := induction later
            rw [join_cons, List.length_append] at behind
            rw [List.flatMap_cons, List.length_append, List.length_append]
            omega

theorem count_le_join {separator : Text} {parts : List Text}
    (nonempty : ∀ part ∈ parts, part ≠ []) : parts.length ≤ (join separator parts).length := by
  induction parts with
  | nil => exact Nat.le_refl _
  | cons first rest induction =>
      rw [List.forall_mem_cons] at nonempty
      have here := List.length_pos_iff.mpr nonempty.1
      cases rest with
      | nil => rwa [join_singleton]
      | cons second rest =>
          have behind := induction nonempty.2
          rw [join_cons_cons, List.length_append, List.length_append, List.length_cons]
          omega

/-- Collapsing keeps a first character that is not blank. -/
theorem collapse_cons_of_not_blank {character : Char}
    (solid : Character.isBlank character = false) (text : Text) :
    ∃ tail, collapse (character :: text) = character :: tail := by
  rcases wordsOnto_of_begun (List.cons_ne_nil character []) text with ⟨tail, rest, begun⟩
  have shape : words (character :: text) = (character :: tail) :: rest := by
    rw [words, wordsOnto_solid_cons solid, begun]
    rfl
  rw [collapse, shape]
  cases rest with
  | nil => exact ⟨tail, by simp⟩
  | cons second rest => exact ⟨_, by simp; rfl⟩

/-! ## Text that is collapsed already -/

@[simp] theorem collapse_blank_cons {character : Char}
    (blank : Character.isBlank character = true) (text : Text) :
    collapse (character :: text) = collapse text := by
  rw [collapse, words, wordsOnto_blank_cons blank]
  rfl

theorem wordsOnto_append_blank {character : Char} (blank : Character.isBlank character = true)
    (words : List Text) (current text : Text) :
    wordsOnto words current (text ++ [character]) = wordsOnto words current text := by
  induction text generalizing words current with
  | nil =>
      rw [List.nil_append, wordsOnto_blank_cons blank]
      rfl
  | cons first text induction =>
      rw [List.cons_append]
      cases starts : Character.isBlank first with
      | true =>
          rw [wordsOnto_blank_cons starts, wordsOnto_blank_cons starts]
          exact induction _ _
      | false =>
          rw [wordsOnto_solid_cons starts, wordsOnto_solid_cons starts]
          exact induction _ _

theorem collapse_append_blank {character : Char} (blank : Character.isBlank character = true)
    (text : Text) : collapse (text ++ [character]) = collapse text := by
  rw [collapse, words, wordsOnto_append_blank blank, ← words, ← collapse]

/-- Reads on through a text whose blanks are single spaces, and tells whether the last
character was one.  `gap` says the same of the character before the text. -/
def gaps (gap : Bool) : Text → Option Bool
  | [] => some gap
  | character :: text =>
      if Character.isBlank character then
        if character = ' ' ∧ gap = false then gaps true text else none
      else gaps false text

theorem gaps_blank_cons {character : Char} (blank : Character.isBlank character = true)
    (gap : Bool) (text : Text) :
    gaps gap (character :: text) =
      if character = ' ' ∧ gap = false then gaps true text else none :=
  if_pos blank

theorem gaps_solid_cons {character : Char} (solid : Character.isBlank character = false)
    (gap : Bool) (text : Text) : gaps gap (character :: text) = gaps false text :=
  if_neg (ne_true_of_eq_false solid)

theorem gaps_append (gap : Bool) (left right : Text) :
    gaps gap (left ++ right) = (gaps gap left).bind (gaps · right) := by
  induction left generalizing gap with
  | nil => rfl
  | cons character left induction =>
      rw [List.cons_append]
      cases blank : Character.isBlank character with
      | true =>
          rw [gaps_blank_cons blank, gaps_blank_cons blank]
          split
          · exact induction true
          · rfl
      | false =>
          rw [gaps_solid_cons blank, gaps_solid_cons blank]
          exact induction false

theorem gaps_of_solid {text : Text}
    (solid : ∀ character ∈ text, Character.isBlank character = false) (nonempty : text ≠ [])
    (gap : Bool) : gaps gap text = some false := by
  induction text generalizing gap with
  | nil => exact absurd rfl nonempty
  | cons character text induction =>
      rw [gaps_solid_cons (solid character List.mem_cons_self)]
      cases text with
      | nil => rfl
      | cons next text =>
          exact induction (fun later member => solid later (List.mem_cons_of_mem _ member))
            (List.cons_ne_nil next text) false

/-- Words that are read while `current` has been begun continue it. -/
theorem join_wordsOnto_of_gaps {text : Text} (current : Text)
    (single : gaps current.isEmpty text = some false) :
    join " " (wordsOnto [] current text) = current.reverse ++ text := by
  induction text generalizing current with
  | nil =>
      have begun : current ≠ [] := by
        rintro rfl
        cases single
      simp [wordsOnto_nil, begun]
  | cons character text induction =>
      cases blank : Character.isBlank character with
      | true =>
          rw [gaps_blank_cons blank] at single
          split at single
          · rename_i space
            rcases space with ⟨rfl, begun⟩
            have rest := induction [] single
            -- The next word is not empty, so a space is joined in before it.
            have more : wordsOnto [] [] text ≠ [] := by
              intro nothing
              rw [nothing] at rest
              cases text with
              | nil => cases single
              | cons next text => simp at rest
            rcases List.exists_cons_of_ne_nil more with ⟨first, others, shape⟩
            rw [wordsOnto_blank_cons blank, begun, if_neg Bool.false_ne_true, wordsOnto_eq, shape]
            change join " " (current.reverse :: first :: others) = _
            rw [join_cons_cons, ← shape, rest]
            simp
          · cases single
      | false =>
          rw [gaps_solid_cons blank] at single
          rw [wordsOnto_solid_cons blank]
          have rest := induction (character :: current) single
          simpa using rest

/-- Text with single spaces between its words and none at its ends is left as it is. -/
theorem collapse_of_gaps {text : Text} (single : gaps true text = some false) :
    collapse text = text := by
  have joined := join_wordsOnto_of_gaps [] single
  simpa [collapse, words] using joined

/-- All blanks are single spaces. -/
def IsolatedSpaces (text : Text) : Prop :=
  (∀ character ∈ text, Character.isBlank character = true → character = ' ') ∧
    ¬ [' ', ' '] <:+: text

instance (text : Text) : Decidable text.IsolatedSpaces :=
  have : Decidable ([' ', ' '] <:+: text) := List.instDecidableIsInfixOfDecidableEq _ _
  instDecidableAnd

theorem gaps_of_isolatedSpaces {text : Text} (isolated : IsolatedSpaces text) (gap : Bool)
    (apart : gap = true → text.head? ≠ some ' ') : ∃ last, gaps gap text = some last := by
  induction text generalizing gap with
  | nil => exact ⟨gap, rfl⟩
  | cons character text induction =>
      rcases isolated with ⟨spaces, single⟩
      have isolatedRest : IsolatedSpaces text := by
        constructor
        · intro later member
          exact spaces later (List.mem_cons_of_mem _ member)
        · intro double
          exact single (double.trans (List.suffix_cons character text).isInfix)
      cases blank : Character.isBlank character with
      | true =>
          have space : character = ' ' := spaces character List.mem_cons_self blank
          subst space
          have closed : gap = false := by
            cases gap with
            | false => rfl
            | true => exact absurd rfl (apart rfl)
          rw [gaps_blank_cons blank, if_pos ⟨rfl, closed⟩]
          apply induction isolatedRest true
          intro _ next
          apply single
          cases text with
          | nil => cases next
          | cons second text =>
              have space : second = ' ' := by simpa using next
              subst space
              exact (List.prefix_append [' ', ' '] text).isInfix
      | false =>
          rw [gaps_solid_cons blank]
          apply induction isolatedRest false
          intro impossible
          cases impossible

end Text

end SchemaSeed
