import Mathlib.Data.List.DropRight
import Mathlib.Data.List.TakeWhile
import SchemaSeed.Proofs.Text.Words

/-! Text with its blanks squeezed.  Collapsing is one way to do it: every run of blanks
becomes a single space, those at the ends disappear.  Parts of a collapsed text still have
their single spaces at the ends; they are brought back to the collapsed part by stripping. -/

namespace SchemaSeed

namespace Text

/-- `short` is `text` with a single space for every run of blanks, apart from a last run,
which may have disappeared.  With `gap`, a run goes on that was squeezed before. -/
inductive Squeezed : (gap : Bool) → (text short : Text) → Prop
  | done {gap : Bool} {text : Text}
      (blank : ∀ character ∈ text, Character.isBlank character = true) : Squeezed gap text []
  | solid {gap : Bool} {character : Char} {text short : Text}
      (solid : Character.isBlank character = false) (later : Squeezed false text short) :
      Squeezed gap (character :: text) (character :: short)
  | space {character : Char} {text short : Text}
      (blank : Character.isBlank character = true) (later : Squeezed true text short) :
      Squeezed false (character :: text) (' ' :: short)
  | skipped {character : Char} {text short : Text}
      (blank : Character.isBlank character = true) (later : Squeezed true text short) :
      Squeezed true (character :: text) short

/-- The last character, if there is one, is not blank. -/
def Ended (text : Text) : Prop :=
  ∀ character, text.getLast? = some character → Character.isBlank character = false

theorem Ended.tail {character : Char} {text : Text} (ended : Ended (character :: text)) :
    Ended text := by
  intro last found
  cases text with
  | nil => cases found
  | cons next text => exact ended last (by rwa [List.getLast?_cons_cons])

theorem nil_of_blank {text : Text} (ended : Ended text)
    (blank : ∀ character ∈ text, Character.isBlank character = true) : text = [] := by
  by_contra nonempty
  have last := List.getLast?_eq_some_getLast nonempty
  have solid := ended _ last
  rw [blank _ (List.getLast_mem nonempty)] at solid
  cases solid

namespace Squeezed

variable {gap : Bool} {text short : Text}

theorem blank_iff (squeezed : Squeezed gap text short) :
    (∀ character ∈ text, Character.isBlank character = true) ↔
      ∀ character ∈ short, Character.isBlank character = true := by
  induction squeezed with
  | done blank => simpa using blank
  | solid solid _ induction => simp [solid]
  | space blank _ induction =>
      have space : Character.isBlank ' ' = true := by decide
      simp [blank, space, induction]
  | skipped blank _ induction => simp [blank, induction]

/-- No blank is left but spaces. -/
theorem eq_space (squeezed : Squeezed gap text short) :
    ∀ character ∈ short, Character.isBlank character = true → character = ' ' := by
  induction squeezed with
  | done => simp
  | solid solid _ induction =>
      rw [List.forall_mem_cons, solid]
      exact ⟨nofun, induction⟩
  | space _ _ induction => exact List.forall_mem_cons.mpr ⟨fun _ => rfl, induction⟩
  | skipped _ _ induction => exact induction

/-- A text can be squeezed in one way only that leaves no blank at its end. -/
theorem unique (squeezed : Squeezed gap text short) {other : Text}
    (otherSqueezed : Squeezed gap text other) (ended : Ended short) (otherEnded : Ended other) :
    short = other := by
  induction squeezed generalizing other with
  | done blank => exact (nil_of_blank otherEnded (otherSqueezed.blank_iff.mp blank)).symm
  | solid solid _ induction =>
      cases otherSqueezed with
      | done blank => simp [solid] at blank
      | solid _ later => rw [induction later ended.tail otherEnded.tail]
      | space blank | skipped blank => simp [solid] at blank
  | space blank later induction =>
      cases otherSqueezed with
      | done allBlank =>
          exact nil_of_blank ended ((Squeezed.space blank later).blank_iff.mp allBlank)
      | solid solid => simp [blank] at solid
      | space _ later => rw [induction later ended.tail otherEnded.tail]
  | skipped blank later induction =>
      cases otherSqueezed with
      | done allBlank =>
          exact nil_of_blank ended ((Squeezed.skipped blank later).blank_iff.mp allBlank)
      | solid solid => simp [blank] at solid
      | skipped _ later => exact induction later ended otherEnded

/-- Behind the blanks in front, both texts start with the same character, if any. -/
theorem skipBlanks_cases (squeezed : Squeezed gap text short) :
    (text.skipBlanks = [] ∧ short.skipBlanks = []) ∨
      ∃ character rest restShort, Character.isBlank character = false ∧
        text.skipBlanks = character :: rest ∧ short.skipBlanks = character :: restShort ∧
        Squeezed false rest restShort := by
  induction squeezed with
  | done blank => exact .inl ⟨List.dropWhile_eq_nil_iff.mpr blank, rfl⟩
  | @solid _ character text short solid later _ =>
      refine .inr ⟨character, text, short, solid, ?_, ?_, later⟩ <;>
        rw [Text.skipBlanks, List.dropWhile_cons, solid] <;> rfl
  | space blank _ induction =>
      have space : Character.isBlank ' ' = true := by decide
      simpa only [Text.skipBlanks, List.dropWhile_cons, blank, space, if_true] using induction
  | skipped blank _ induction =>
      simpa only [Text.skipBlanks, List.dropWhile_cons, blank, if_true] using induction

theorem skipBlanks (squeezed : Squeezed gap text short) :
    Squeezed true text.skipBlanks short.skipBlanks := by
  rcases squeezed.skipBlanks_cases with
    ⟨none, noneShort⟩ | ⟨character, rest, restShort, solid, front, frontShort, later⟩
  · rw [none, noneShort]
    exact .done (by simp)
  · rw [front, frontShort]
    exact .solid solid later

/-- A run without blanks at the start of the squeezed text stands in front of the text. -/
theorem isPrefix {run : Text} (squeezed : Squeezed false text short)
    (solid : ∀ character ∈ run, Character.isBlank character = false) (front : run <+: short) :
    run <+: text := by
  generalize apart : false = gap at squeezed
  induction squeezed generalizing run with
  | done =>
      rw [List.prefix_nil.mp front]
      exact List.nil_prefix
  | solid _ _ induction =>
      cases apart
      cases run with
      | nil => exact List.nil_prefix
      | cons first run =>
          rcases List.cons_prefix_cons.mp front with ⟨rfl, later⟩
          exact List.cons_prefix_cons.mpr
            ⟨rfl, induction (List.forall_mem_cons.mp solid).2 later rfl⟩
  | space =>
      cases run with
      | nil => exact List.nil_prefix
      | cons first run =>
          rcases List.cons_prefix_cons.mp front with ⟨rfl, -⟩
          exact absurd (solid ' ' List.mem_cons_self) (by decide)
  | skipped => cases apart

/-- A run without blanks that stands in the squeezed text stands in the text. -/
theorem isInfix {run : Text} (squeezed : Squeezed gap text short)
    (solid : ∀ character ∈ run, Character.isBlank character = false) (within : run <:+: short) :
    run <:+: text := by
  induction squeezed with
  | done =>
      rw [List.infix_nil.mp within]
      exact List.nil_infix
  | solid kept later induction =>
      rcases List.infix_cons_iff.mp within with front | behind
      · exact (isPrefix (.solid kept later) solid front).isInfix
      · exact List.infix_cons (induction behind)
  | space blank later induction =>
      rcases List.infix_cons_iff.mp within with front | behind
      · exact (isPrefix (.space blank later) solid front).isInfix
      · exact List.infix_cons (induction behind)
  | skipped _ _ induction => exact List.infix_cons (induction within)

/-- A first character that is not blank is the first one of either text. -/
theorem head?_eq_some_iff (squeezed : Squeezed false text short) {character : Char}
    (solid : Character.isBlank character = false) :
    text.head? = some character ↔ short.head? = some character := by
  have other (blank : Char) (known : Character.isBlank blank = true) : blank ≠ character := by
    rintro rfl
    rw [solid] at known
    cases known
  cases squeezed with
  | @done _ text blank =>
      cases text with
      | nil => rfl
      | cons first text => simp [other first (blank first List.mem_cons_self)]
  | solid => rfl
  | space blank => simp [other _ blank, other ' ' (by decide)]

/-- What is read up to a blank at the latest is the same in both texts. -/
theorem takeWhile_eq {wanted : Char → Bool}
    (solid : ∀ character, Character.isBlank character = true → wanted character = false)
    (squeezed : Squeezed false text short) :
    text.takeWhile wanted = short.takeWhile wanted ∧
      Squeezed false (text.dropWhile wanted) (short.dropWhile wanted) := by
  generalize apart : false = gap at squeezed
  induction squeezed with
  | @done _ text blank =>
      cases text with
      | nil => exact ⟨rfl, .done blank⟩
      | cons character text =>
          have unwanted := solid character (blank character List.mem_cons_self)
          rw [List.takeWhile_cons, List.dropWhile_cons, unwanted]
          exact ⟨rfl, .done blank⟩
  | @solid _ character _ _ kept later induction =>
      cases apart
      rw [List.takeWhile_cons, List.dropWhile_cons, List.takeWhile_cons, List.dropWhile_cons]
      split
      · exact ⟨congrArg _ (induction rfl).1, (induction rfl).2⟩
      · exact ⟨rfl, .solid kept later⟩
  | @space character _ _ blank later _ =>
      rw [List.takeWhile_cons, List.dropWhile_cons, List.takeWhile_cons, List.dropWhile_cons,
        solid character blank, solid ' ' (by decide)]
      exact ⟨rfl, .space blank later⟩
  | skipped => cases apart

theorem skipBlanks_right (squeezed : Squeezed gap text short) :
    Squeezed true text short.skipBlanks := by
  induction squeezed with
  | done blank => exact .done blank
  | solid solid later _ =>
      simp only [Text.skipBlanks, List.dropWhile_cons, solid, Bool.false_eq_true, if_false]
      exact .solid solid later
  | space blank _ induction =>
      have space : Character.isBlank ' ' = true := by decide
      simp only [Text.skipBlanks, List.dropWhile_cons, space, if_true]
      exact .skipped blank induction
  | skipped blank _ induction => exact .skipped blank induction

/-- Blanks at the end of what was squeezed can be dropped. -/
theorem of_append {front back : Text} (squeezed : Squeezed gap text (front ++ back))
    (blank : ∀ character ∈ back, Character.isBlank character = true) :
    Squeezed gap text front := by
  generalize shape : front ++ back = short at squeezed
  induction squeezed generalizing front with
  | done allBlank =>
      rw [(List.append_eq_nil_iff.mp shape).1]
      exact .done allBlank
  | solid solid _ induction =>
      cases front with
      | nil =>
          rw [List.nil_append] at shape
          simp [shape, solid] at blank
      | cons first front =>
          cases shape
          exact .solid solid (induction rfl)
  | @space character text short characterBlank later induction =>
      cases front with
      | nil =>
          rw [List.nil_append] at shape
          rw [shape] at blank
          exact .done ((Squeezed.space characterBlank later).blank_iff.mpr blank)
      | cons first front =>
          cases shape
          exact .space characterBlank (induction rfl)
  | skipped characterBlank _ induction => exact .skipped characterBlank (induction shape)

end Squeezed

/-! ## Collapsed text -/

theorem wordsOnto_of_blank {text : Text}
    (blank : ∀ character ∈ text, Character.isBlank character = true) :
    wordsOnto [] [] text = [] := by
  induction text with
  | nil => rfl
  | cons character text induction =>
      rw [List.forall_mem_cons] at blank
      rw [wordsOnto_blank_cons blank.1]
      exact induction blank.2

/-- The words of a text, joined by spaces, are the text squeezed. -/
theorem squeezed_wordsOnto (current text : Text) :
    ∃ short, join " " (wordsOnto [] current text) = current.reverse ++ short ∧
      Squeezed current.isEmpty text short ∧ Ended short := by
  induction text generalizing current with
  | nil =>
      refine ⟨[], ?_, .done (by simp), nofun⟩
      cases current <;> simp [wordsOnto_nil]
  | cons character text induction =>
      cases blank : Character.isBlank character with
      | true =>
          rcases induction [] with ⟨short, joined, squeezed, ended⟩
          rw [List.reverse_nil, List.nil_append] at joined
          cases current with
          | nil =>
              refine ⟨short, ?_, .skipped blank squeezed, ended⟩
              rw [wordsOnto_blank_cons blank]
              exact joined
          | cons last current =>
              have shape : wordsOnto [] (last :: current) (character :: text) =
                  (last :: current).reverse :: wordsOnto [] [] text := by
                rw [wordsOnto_blank_cons blank, wordsOnto_eq]
                simp
              rw [shape]
              cases words : wordsOnto [] [] text with
              | nil =>
                  rw [words] at joined
                  subst joined
                  refine ⟨[], by simp, .done ?_, ended⟩
                  rw [List.forall_mem_cons]
                  exact ⟨blank, squeezed.blank_iff.mpr (by simp)⟩
              | cons first rest =>
                  rw [join_cons_cons, ← words, joined]
                  have more : short ≠ [] := by
                    rintro rfl
                    rw [wordsOnto_of_blank (squeezed.blank_iff.mpr (by simp))] at words
                    cases words
                  refine ⟨' ' :: short, by simp, .space blank squeezed, ?_⟩
                  intro last found
                  rcases List.exists_cons_of_ne_nil more with ⟨next, others, rfl⟩
                  exact ended last (by rwa [List.getLast?_cons_cons] at found)
      | false =>
          rcases induction (character :: current) with ⟨short, joined, squeezed, ended⟩
          refine ⟨character :: short, ?_, .solid blank squeezed, ?_⟩
          · rw [wordsOnto_solid_cons blank, joined]
            simp
          · intro last found
            cases short with
            | nil =>
                cases found
                exact blank
            | cons next others => exact ended last (by rwa [List.getLast?_cons_cons] at found)

theorem squeezed_collapse (text : Text) :
    Squeezed true text text.collapse ∧ Ended text.collapse := by
  rcases squeezed_wordsOnto [] text with ⟨short, joined, squeezed, ended⟩
  have same : text.collapse = short := by simpa [collapse, words] using joined
  rw [same]
  exact ⟨squeezed, ended⟩

theorem ended_strip (text : Text) : Ended text.strip := by
  intro last found
  rw [strip, trim, List.getLast?_reverse] at found
  have kept := List.head?_dropWhile_not Character.isBlank (text.dropWhile Character.isBlank).reverse
  rw [found] at kept
  exact kept

theorem collapse_skipBlanks (text : Text) : text.skipBlanks.collapse = text.collapse := by
  induction text with
  | nil => rfl
  | cons character text induction =>
      cases blank : Character.isBlank character with
      | true =>
          rw [collapse_blank_cons blank, ← induction]
          simp only [skipBlanks, List.dropWhile_cons, blank, if_true]
      | false => simp [skipBlanks, blank]

theorem collapse_strip (text : Text) : text.strip.collapse = text.collapse := by
  have back (reversed : Text) :
      collapse (reversed.dropWhile Character.isBlank).reverse = collapse reversed.reverse := by
    induction reversed with
    | nil => rfl
    | cons character reversed induction =>
        cases blank : Character.isBlank character with
        | true =>
            rw [List.reverse_cons, collapse_append_blank blank, ← induction]
            simp only [List.dropWhile_cons, blank, if_true]
        | false => simp [blank]
  rw [strip, trim, back, List.reverse_reverse]
  exact collapse_skipBlanks text

/-- A part of a squeezed text is stripped to what it would have been collapsed to. -/
theorem Squeezed.strip_eq {gap : Bool} {text short : Text} (squeezed : Squeezed gap text short) :
    short.strip = text.collapse := by
  have front := squeezed.skipBlanks_right
  have split : short.skipBlanks =
      short.strip ++ (short.skipBlanks.reverse.takeWhile Character.isBlank).reverse := by
    rw [strip, trim, ← List.reverse_append]
    exact (List.reverse_eq_iff.mpr List.takeWhile_append_dropWhile).symm
  rw [split] at front
  have stripped := front.of_append fun character member =>
    List.all_eq_true.mp List.all_takeWhile character (List.mem_reverse.mp member)
  exact stripped.unique (squeezed_collapse text).1 (ended_strip short) (squeezed_collapse text).2

theorem Squeezed.trans {gap : Bool} {text short shorter : Text}
    (squeezed : Squeezed gap text short) (again : Squeezed gap short shorter) :
    Squeezed gap text shorter := by
  induction squeezed generalizing shorter with
  | done blank =>
      cases again
      exact .done blank
  | solid solid _ induction =>
      cases again with
      | done blank => simp [solid] at blank
      | solid _ later => exact .solid solid (induction later)
      | space blank | skipped blank => simp [solid] at blank
  | space blank later induction =>
      cases again with
      | done allBlank => exact .done ((Squeezed.space blank later).blank_iff.mpr allBlank)
      | solid solid => exact absurd solid (by decide)
      | space _ shorter => exact .space blank (induction shorter)
  | skipped blank _ induction => exact .skipped blank (induction again)

/-- Collapsed text has nothing left to collapse. -/
@[simp] theorem collapse_collapse (text : Text) : text.collapse.collapse = text.collapse := by
  rcases squeezed_collapse text with ⟨squeezed, ended⟩
  rcases squeezed_collapse text.collapse with ⟨again, endedAgain⟩
  exact (squeezed.trans again).unique squeezed endedAgain ended

/-- Squeezing does not show in the collapsed text. -/
theorem Squeezed.collapse_eq {gap : Bool} {text short : Text} (squeezed : Squeezed gap text short) :
    short.collapse = text.collapse := by
  rw [← collapse_strip, squeezed.strip_eq, collapse_collapse]

/-- Of what is unwanted, one character at either end is taken off, if the next one is
wanted. -/
theorem trim_between {unwanted : Char → Bool} {first last : Char} {content : Text}
    (front : unwanted first = true) (back : unwanted last = true)
    (starts : ∀ character, content.head? = some character → unwanted character = false)
    (ends : ∀ character, content.getLast? = some character → unwanted character = false) :
    trim unwanted (first :: content ++ [last]) = content := by
  cases content with
  | nil => simp [trim, front, back]
  | cons character rest =>
      have kept := starts character rfl
      have dropped : (first :: (character :: rest) ++ [last]).dropWhile unwanted =
          character :: rest ++ [last] := by
        simp [front, kept]
      rw [trim, dropped, List.reverse_append, List.reverse_singleton, List.singleton_append,
        List.dropWhile_cons, if_pos back]
      cases reversed : (character :: rest).reverse with
      | nil => simp at reversed
      | cons final others =>
          have final : unwanted final = false := by
            apply ends
            rw [← List.head?_reverse, reversed]
            rfl
          rw [List.dropWhile_cons, final]
          simp only [Bool.false_eq_true, if_false]
          rw [← reversed, List.reverse_reverse]

/-! ## Squeezed parts -/

theorem rdropWhile_append_cons {unwanted : Char → Bool} {character : Char}
    (wanted : unwanted character = false) (front rest : Text) :
    (front ++ character :: rest).rdropWhile unwanted =
      front ++ character :: rest.rdropWhile unwanted := by
  simp only [List.rdropWhile, List.reverse_append, List.reverse_cons, List.append_assoc,
    List.dropWhile_append]
  cases nothing : (rest.reverse.dropWhile unwanted) with
  | nil => simp [wanted]
  | cons => simp

theorem rdropWhile_cons (unwanted : Char → Bool) (character : Char) (rest : Text) :
    (character :: rest).rdropWhile unwanted =
      if unwanted character = true ∧ rest.rdropWhile unwanted = [] then []
      else character :: rest.rdropWhile unwanted := by
  cases wanted : unwanted character with
  | false => simpa using rdropWhile_append_cons wanted [] rest
  | true =>
      simp only [List.rdropWhile, List.reverse_cons, List.dropWhile_append]
      cases rest.reverse.dropWhile unwanted with
      | nil => simp [wanted]
      | cons => simp

theorem rdropWhile_append_of_wanted {unwanted : Char → Bool} {word gap : Text}
    (wanted : ∀ character ∈ word, unwanted character = false)
    (dropped : ∀ character ∈ gap, unwanted character = true) :
    (word ++ gap).rdropWhile unwanted = word := by
  induction word with
  | nil => exact List.rdropWhile_eq_nil_iff.mpr dropped
  | cons character word induction =>
      rw [List.forall_mem_cons] at wanted
      rw [List.cons_append, rdropWhile_cons, induction wanted.2, if_neg (by simp [wanted.1])]

/-- The text with a single space for every run of blanks.  With `gap`, a run goes on that
stands before the text. -/
def squeeze (gap : Bool) : Text → Text
  | [] => []
  | character :: rest =>
      if Character.isBlank character then
        if gap then squeeze true rest else ' ' :: squeeze true rest
      else character :: squeeze false rest

theorem squeeze_blank_cons {character : Char} (blank : Character.isBlank character = true)
    (gap : Bool) (rest : Text) :
    squeeze gap (character :: rest) =
      if gap then squeeze true rest else ' ' :: squeeze true rest :=
  if_pos blank

theorem squeeze_solid_cons {character : Char} (solid : Character.isBlank character = false)
    (gap : Bool) (rest : Text) :
    squeeze gap (character :: rest) = character :: squeeze false rest :=
  if_neg (ne_true_of_eq_false solid)

theorem squeezed_squeeze (gap : Bool) (text : Text) : Squeezed gap text (squeeze gap text) := by
  induction text generalizing gap with
  | nil => exact .done (by simp)
  | cons character text induction =>
      cases blank : Character.isBlank character with
      | true =>
          rw [squeeze_blank_cons blank]
          cases gap with
          | true => exact .skipped blank (induction true)
          | false => exact .space blank (induction true)
      | false =>
          rw [squeeze_solid_cons blank]
          exact .solid blank (induction false)

/-- Whether a run of blanks goes on behind the text. -/
def gapBehind (gap : Bool) (text : Text) : Bool :=
  text.getLast?.elim gap Character.isBlank

theorem squeeze_append (gap : Bool) (left right : Text) :
    squeeze gap (left ++ right) = squeeze gap left ++ squeeze (gapBehind gap left) right := by
  induction left generalizing gap with
  | nil => rfl
  | cons character left induction =>
      have behind : gapBehind gap (character :: left) =
          gapBehind (Character.isBlank character) left := by
        cases left <;> simp [gapBehind, List.getLast?_cons]
      rw [behind, List.cons_append]
      cases blank : Character.isBlank character with
      | true =>
          rw [squeeze_blank_cons blank, squeeze_blank_cons blank]
          split <;> simp [induction]
      | false =>
          rw [squeeze_solid_cons blank, squeeze_solid_cons blank, induction, List.cons_append]

theorem squeeze_of_solid {text : Text}
    (solid : ∀ character ∈ text, Character.isBlank character = false) (gap : Bool) :
    squeeze gap text = text := by
  induction text generalizing gap with
  | nil => rfl
  | cons character text induction =>
      rw [List.forall_mem_cons] at solid
      rw [squeeze_solid_cons solid.1, induction solid.2]

theorem squeeze_append_solid {character : Char} (solid : Character.isBlank character = false)
    (gap : Bool) (left right : Text) :
    squeeze gap (left ++ character :: right) =
      squeeze gap left ++ character :: squeeze false right := by
  rw [squeeze_append, squeeze_solid_cons solid]

theorem mem_squeeze {gap : Bool} {text : Text} {character : Char}
    (member : character ∈ squeeze gap text) : character = ' ' ∨ character ∈ text := by
  induction text generalizing gap with
  | nil => cases member
  | cons first text induction =>
      cases blank : Character.isBlank first with
      | true =>
          rw [squeeze_blank_cons blank] at member
          split at member
          · exact (induction member).imp_right (List.mem_cons_of_mem first)
          · rcases List.mem_cons.mp member with space | later
            · exact .inl space
            · exact (induction later).imp_right (List.mem_cons_of_mem first)
      | false =>
          rw [squeeze_solid_cons blank] at member
          rcases List.mem_cons.mp member with rfl | later
          · exact .inr List.mem_cons_self
          · exact (induction later).imp_right (List.mem_cons_of_mem first)

/-- A last character that is not blank stays the last one. -/
theorem getLast?_of_squeeze {gap : Bool} {text : Text} {character : Char}
    (last : (squeeze gap text).getLast? = some character)
    (solid : Character.isBlank character = false) : text.getLast? = some character := by
  induction text generalizing gap with
  | nil => cases last
  | cons first text induction =>
      have later {gap : Bool} (found : (squeeze gap text).getLast? = some character) :
          (first :: text).getLast? = some character := by
        rw [List.getLast?_cons, induction found]
        rfl
      cases blank : Character.isBlank first with
      | true =>
          rw [squeeze_blank_cons blank] at last
          split at last
          · exact later last
          · rw [List.getLast?_cons] at last
            cases found : (squeeze true text).getLast? with
            | some other =>
                rw [found] at last
                exact later (found.trans last)
            | none =>
                rw [found] at last
                cases last
                cases solid
      | false =>
          rw [squeeze_solid_cons blank, List.getLast?_cons] at last
          cases found : (squeeze false text).getLast? with
          | some other =>
              rw [found] at last
              exact later (found.trans last)
          | none =>
              rw [found] at last
              cases text with
              | nil => exact last
              | cons next text =>
                  rw [List.getLast?_eq_none_iff] at found
                  cases starts : Character.isBlank next with
                  | true =>
                      rw [squeeze_blank_cons starts] at found
                      cases found
                  | false =>
                      rw [squeeze_solid_cons starts] at found
                      cases found

/-- Collapsing is squeezing, less the blank at the end. -/
theorem collapse_eq (text : Text) :
    text.collapse = (squeeze true text).rdropWhile Character.isBlank := by
  have whole := squeezed_squeeze true text
  rw [← @List.rdropWhile_append_rtakeWhile _ Character.isBlank (squeeze true text)] at whole
  have front := whole.of_append fun character member => List.mem_rtakeWhile_imp member
  refine (squeezed_collapse text).1.unique front (squeezed_collapse text).2 ?_
  intro last found
  have nonempty : (squeeze true text).rdropWhile Character.isBlank ≠ [] := by
    intro nothing
    rw [nothing] at found
    cases found
  rw [List.getLast?_eq_some_getLast nonempty] at found
  cases found
  simpa using List.rdropWhile_last_not Character.isBlank _ nonempty

theorem collapse_append_solid {character : Char} (solid : Character.isBlank character = false)
    (left right : Text) :
    collapse (left ++ character :: right) =
      squeeze true left ++ character :: (squeeze false right).rdropWhile Character.isBlank := by
  rw [collapse_eq, squeeze_append_solid solid, rdropWhile_append_cons solid]

theorem collapse_append_blanks {gap : Text}
    (blank : ∀ character ∈ gap, Character.isBlank character = true) (text : Text) :
    collapse (text ++ gap) = collapse text := by
  induction gap generalizing text with
  | nil => rw [List.append_nil]
  | cons character gap induction =>
      rw [List.forall_mem_cons] at blank
      rw [List.append_cons, induction blank.2, collapse_append_blank blank.1]

theorem squeeze_blank_append {gap : Text}
    (blank : ∀ character ∈ gap, Character.isBlank character = true) (text : Text) :
    squeeze true (gap ++ text) = squeeze true text := by
  induction gap with
  | nil => rfl
  | cons character gap induction =>
      rw [List.forall_mem_cons] at blank
      rw [List.cons_append, squeeze_blank_cons blank.1, if_pos rfl, induction blank.2]

/-- Blanks next to a blank, or at an end, do not show in the collapsed text. -/
theorem collapse_loose {left right gap : Text}
    (blank : ∀ character ∈ gap, Character.isBlank character = true)
    (loose : ∀ last first, left.getLast? = some last → right.head? = some first →
      Character.isBlank last = true ∨ Character.isBlank first = true) :
    collapse (left ++ (gap ++ right)) = collapse (left ++ right) := by
  cases right with
  | nil => rw [List.append_nil, List.append_nil, collapse_append_blanks blank]
  | cons first right =>
      have behind : squeeze (gapBehind true left) (gap ++ first :: right) =
          squeeze (gapBehind true left) (first :: right) := by
        cases run : gapBehind true left with
        | true => exact squeeze_blank_append blank _
        | false =>
            have starts : Character.isBlank first = true := by
              cases ends : left.getLast? with
              | none =>
                  rw [gapBehind, ends] at run
                  cases run
              | some last =>
                  rw [gapBehind, ends, Option.elim_some] at run
                  exact (loose last first ends rfl).resolve_left (by simp [run])
            cases gap with
            | nil => rfl
            | cons character gap =>
                rw [List.forall_mem_cons] at blank
                have skipped := squeeze_blank_append blank.2 (first :: right)
                rw [squeeze_blank_cons starts, if_pos rfl] at skipped
                rw [List.cons_append, squeeze_blank_cons blank.1, squeeze_blank_cons starts, skipped]
      rw [collapse_eq, collapse_eq, squeeze_append, behind, ← squeeze_append]

end Text

end SchemaSeed
