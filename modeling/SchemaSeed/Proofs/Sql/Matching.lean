import Mathlib.Data.List.TakeWhile
import SchemaSeed.Proofs.Lists
import SchemaSeed.Proofs.Text.Letter
import SchemaSeed.Sql.Pattern

/-! Matchers on text that is put together from parts.  A match is always judged with the
text that really follows, so a part is silent only with respect to what comes after
it.  A character that bars a matcher separates the two sides: no match runs over it. -/

namespace SchemaSeed

namespace Sql

/-! ## What a match consists of -/

/-- The characters spell the letters, one each. -/
abbrev Spelled (letters word : Text) : Prop :=
  List.Forall₂ (fun letter character => Character.spells letter character = true) letters word

theorem word?_eq_some_iff {letters text rest : Text} :
    word? letters text = some rest ↔ ∃ word, text = word ++ rest ∧ Spelled letters word := by
  induction letters generalizing text with
  | nil => simp [word?, eq_comm]
  | cons letter letters induction =>
      cases text with
      | nil => simp [word?]
      | cons character text =>
          by_cases spelled : Character.spells letter character = true
          · simp only [word?, spelled, if_true, induction]
            constructor
            · rintro ⟨word, rfl, spelledRest⟩
              exact ⟨character :: word, rfl, .cons spelled spelledRest⟩
            · rintro ⟨word, equal, matched⟩
              cases matched with
              | cons first spelledRest =>
                  injection equal with _ equalRest
                  exact ⟨_, equalRest, spelledRest⟩
          · simp only [word?, spelled, if_false, Bool.false_eq_true, reduceCtorEq, false_iff]
            rintro ⟨word, equal, matched⟩
            cases matched with
            | cons first spelledRest =>
                injection equal with equalFirst _
                exact spelled (equalFirst ▸ first)

theorem word?_eq_none_of_append {letters left : Text} (right : Text)
    (unmatched : word? letters (left ++ right) = none) : word? letters left = none := by
  cases matched : word? letters left with
  | none => rfl
  | some rest =>
      rcases word?_eq_some_iff.mp matched with ⟨word, rfl, spelled⟩
      have longer : word? letters (word ++ rest ++ right) = some (rest ++ right) :=
        word?_eq_some_iff.mpr ⟨word, by simp, spelled⟩
      rw [longer] at unmatched
      cases unmatched

/-- A word that spells other letters spells none of this one. -/
theorem spells_eq_false_of_spelled {letters word : Text} (spelled : Spelled letters word)
    {other : Char} (otherPlain : Character.IsPlainLetter other)
    (plain : ∀ letter ∈ letters, Character.IsPlainLetter letter ∧ letter ≠ other) :
    ∀ character ∈ word, Character.spells other character = false := by
  intro character member
  rcases exists_of_mem_right spelled member with ⟨letter, known, spelledBy⟩
  exact Character.spells_eq_false (plain letter known).1 spelledBy otherPlain
    (plain letter known).2

theorem blanks?_eq_some {text rest : Text} (matched : blanks? text = some rest) :
    ∃ gap, text = gap ++ rest ∧ gap ≠ [] ∧ (∀ character ∈ gap, Character.isBlank character = true) ∧
      ∀ character, rest.head? = some character → Character.isBlank character = false := by
  cases text with
  | nil => simp [blanks?] at matched
  | cons character text =>
      by_cases blank : Character.isBlank character = true
      · simp only [blanks?, blank, if_true, Option.some.injEq, Text.skipBlanks] at matched
        subst matched
        refine ⟨character :: text.takeWhile Character.isBlank, ?_, by simp, ?_, ?_⟩
        · simp
        · intro later member
          rcases List.mem_cons.mp member with rfl | member
          · exact blank
          · exact List.mem_takeWhile_imp member
        · intro next first
          have stopped := List.head?_dropWhile_not Character.isBlank text
          simpa [first] using stopped
      · simp [blanks?, blank] at matched

theorem phrase?_eq_some {first second text rest : Text}
    (matched : phrase? first second text = some rest) :
    ∃ word gap last, text = word ++ gap ++ last ++ rest ∧ Spelled first word ∧ gap ≠ [] ∧
      (∀ character ∈ gap, Character.isBlank character = true) ∧ Spelled second last := by
  simp only [phrase?, Option.bind_eq_some_iff] at matched
  rcases matched with ⟨afterGap, ⟨afterWord, wordMatched, gapMatched⟩, lastMatched⟩
  rcases word?_eq_some_iff.mp wordMatched with ⟨word, rfl, spelledWord⟩
  rcases blanks?_eq_some gapMatched with ⟨gap, rfl, nonempty, blank, -⟩
  rcases word?_eq_some_iff.mp lastMatched with ⟨last, rfl, spelledLast⟩
  exact ⟨word, gap, last, by simp, spelledWord, nonempty, blank, spelledLast⟩

/-! ## Characters that bar a matcher -/

/-- No match runs over the character: what stands before it decides. -/
def Bars (matcher : Text → Option Text) (character : Char) : Prop :=
  ∀ left right, matcher (left ++ character :: right) =
    (matcher left).map (· ++ character :: right)

theorem bars_word {letters : Text} {character : Char}
    (foreign : ∀ letter ∈ letters, Character.spells letter character = false) :
    Bars (word? letters) character := by
  intro left right
  induction letters generalizing left with
  | nil => simp [word?]
  | cons letter letters induction =>
      have foreignRest := fun letter member => foreign letter (List.mem_cons_of_mem _ member)
      cases left with
      | nil => simp [word?, foreign letter List.mem_cons_self]
      | cons first left =>
          simp only [List.cons_append, word?]
          split
          · exact induction foreignRest left
          · rfl

theorem skipBlanks_append_of_not_blank {character : Char}
    (solid : Character.isBlank character = false) (left right : Text) :
    Text.skipBlanks (left ++ character :: right) =
      Text.skipBlanks left ++ character :: right := by
  induction left with
  | nil => simp [Text.skipBlanks, solid]
  | cons first left induction =>
      by_cases blank : Character.isBlank first = true
      · simpa [Text.skipBlanks, blank] using induction
      · simp [Text.skipBlanks, blank]

theorem bars_blanks {character : Char} (solid : Character.isBlank character = false) :
    Bars blanks? character := by
  intro left right
  cases left with
  | nil => simp [blanks?, solid]
  | cons first left =>
      simp only [List.cons_append, blanks?]
      split
      · simp [skipBlanks_append_of_not_blank solid]
      · rfl

theorem Bars.bind {first second : Text → Option Text} {character : Char}
    (barsFirst : Bars first character) (barsSecond : Bars second character) :
    Bars (fun text => (first text).bind second) character := by
  intro left right
  simp only [barsFirst left right, Option.bind_map]
  cases first left with
  | none => rfl
  | some rest => exact barsSecond rest right

theorem bars_phrase {first second : Text} {character : Char}
    (foreign : ∀ letter ∈ first ++ second, Character.spells letter character = false)
    (solid : Character.isBlank character = false) :
    Bars (phrase? first second) character :=
  ((bars_word fun letter member => foreign letter (List.mem_append_left _ member)).bind
    (bars_blanks solid)).bind
      (bars_word fun letter member => foreign letter (List.mem_append_right _ member))

/-- A character that only the first letter of a phrase can stand for bars every match
that began before it. -/
theorem phrase?_cons_append {letter : Char} {more second : Text} {character : Char}
    (foreign : ∀ letter ∈ more ++ second, Character.spells letter character = false)
    (solid : Character.isBlank character = false) (first : Char) (left right : Text) :
    phrase? (letter :: more) second (first :: (left ++ character :: right)) =
      (phrase? (letter :: more) second (first :: left)).map (· ++ character :: right) := by
  by_cases spelled : Character.spells letter first = true
  · have barred := bars_phrase foreign solid left right
    simpa [phrase?, word?, spelled] using barred
  · simp [phrase?, word?, spelled]

theorem bars_engineClause {character : Char}
    (foreign : ∀ letter ∈ ("engine" : Text), Character.spells letter character = false)
    (solid : Character.isBlank character = false) (different : character ≠ '=') :
    Bars engineClause? character := by
  apply (bars_word foreign).bind
  intro left right
  simp only [skipBlanks_append_of_not_blank solid]
  cases Text.skipBlanks left with
  | nil =>
      simp only [List.nil_append]
      split
      · rename_i equal
        injection equal with first _
        exact absurd first different
      · simp
  | cons first rest =>
      by_cases equal : first = '='
      · subst equal
        rfl
      · simp [equal]

/-- A search does not run over a bar. -/
theorem search?_bar {matcher : Text → Option Text} {character : Char}
    (bars : Bars matcher character) (nothing : matcher [] = none) (left right : Text) :
    search? matcher (left ++ character :: right) =
      ((search? matcher left).map (· ++ character :: right)).or (search? matcher right) := by
  induction left with
  | nil =>
      have here := bars [] right
      rw [nothing, List.nil_append] at here
      simp [search?, here]
  | cons first left induction =>
      have here := bars (first :: left) right
      rw [List.cons_append] at here ⊢
      rw [search?, here, induction, search?]
      cases matcher (first :: left) <;> rfl

theorem occurs_bar_eq {matcher : Text → Option Text} {character : Char}
    (bars : Bars matcher character) (nothing : matcher [] = none) (left right : Text) :
    occurs matcher (left ++ character :: right) =
      (occurs matcher left || occurs matcher right) := by
  rw [occurs, search?_bar bars nothing, Option.isSome_or, Option.isSome_map, occurs, occurs]

/-! ## Parts without a match -/

/-- No match starts within the part when `rest` follows it. -/
def Silent (matcher : Text → Option α) : (part rest : Text) → Prop
  | [], _ => True
  | character :: part, rest =>
      matcher (character :: (part ++ rest)) = none ∧ Silent matcher part rest

theorem silent_append {matcher : Text → Option α} {left right rest : Text} :
    Silent matcher (left ++ right) rest ↔
      Silent matcher left (right ++ rest) ∧ Silent matcher right rest := by
  induction left with
  | nil => simp [Silent]
  | cons character left induction => simp [Silent, induction, and_assoc]

/-- A part in front of a bar is silent as soon as it is silent by itself. -/
theorem silent_before_bar {matcher : Text → Option Text} {character : Char}
    (bars : Bars matcher character) {part : Text} (right : Text) :
    Silent matcher part (character :: right) ↔ Silent matcher part [] := by
  induction part with
  | nil => rfl
  | cons first part induction =>
      have barred := bars (first :: part) right
      rw [List.cons_append] at barred
      simp [Silent, induction, barred]

theorem silent_bar {matcher : Text → Option Text} {character : Char}
    (bars : Bars matcher character) (nothing : matcher [] = none) {left right rest : Text} :
    Silent matcher (left ++ character :: right) rest ↔
      Silent matcher left [] ∧ Silent matcher right rest := by
  rw [silent_append, List.cons_append, silent_before_bar bars, Silent]
  have barred := bars [] (right ++ rest)
  simp only [List.nil_append, nothing, Option.map_none] at barred
  simp [barred]

theorem silent_nil_iff {matcher : Text → Option α} {part : Text} :
    Silent matcher part [] ↔ occurs matcher part = false := by
  induction part with
  | nil => simp [Silent, occurs, search?]
  | cons character part induction =>
      simp only [occurs] at induction
      cases matched : matcher (character :: part) with
      | none => simp [Silent, occurs, search?, matched, induction]
      | some found => simp [Silent, occurs, search?, matched]

theorem search?_of_match {matcher : Text → Option α} {text : Text} {found : α}
    (nonempty : text ≠ []) (matched : matcher text = some found) :
    search? matcher text = some found := by
  cases text with
  | nil => exact absurd rfl nonempty
  | cons character text => rw [search?, matched, Option.some_or]

theorem position?_append_of_silent {matcher : Text → Option α} {part rest : Text}
    (silent : Silent matcher part rest) (passed : Nat) :
    position? matcher passed (part ++ rest) =
      position? matcher (passed + part.length) rest := by
  induction part generalizing passed with
  | nil => rfl
  | cons character part induction =>
      simp only [List.cons_append, position?, silent.1, Option.isSome_none, Bool.false_eq_true,
        if_false, induction silent.2, List.length_cons]
      congr 1
      omega

theorem position?_of_match {matcher : Text → Option Text} {text : Text} (nonempty : text ≠ [])
    (matched : (matcher text).isSome = true) (passed : Nat) :
    position? matcher passed text = some passed := by
  cases text with
  | nil => exact absurd rfl nonempty
  | cons character text => rw [position?, if_pos matched]

theorem le_of_position?_eq_some {matcher : Text → Option α} {passed position : Nat}
    {text : Text} (found : position? matcher passed text = some position) :
    passed ≤ position := by
  induction text generalizing passed with
  | nil => cases found
  | cons character text induction =>
      simp only [position?] at found
      split at found
      · injection found with equal
        exact Nat.le_of_eq equal
      · exact Nat.le_of_succ_le (induction found)

/-- Every match starts with a form of the letter. -/
def StartsWith (matcher : Text → Option α) (letter : Char) : Prop :=
  ∀ character rest, Character.spells letter character = false →
    matcher (character :: rest) = none

theorem startsWith_word (letter : Char) (letters : Text) :
    StartsWith (word? (letter :: letters)) letter := by
  intro character rest foreign
  simp [word?, foreign]

theorem StartsWith.bind {matcher : Text → Option Text} {letter : Char}
    (starts : StartsWith matcher letter) (next : Text → Option α) :
    StartsWith (fun text => (matcher text).bind next) letter := by
  intro character rest foreign
  simp [starts character rest foreign]

theorem startsWith_tableMarker : StartsWith tableMarker? 'c' :=
  ((startsWith_word 'c' _).bind _).bind _

theorem startsWith_engineClause : StartsWith engineClause? 'e' :=
  (startsWith_word 'e' _).bind _

theorem StartsWith.silent {matcher : Text → Option α} {letter : Char}
    (starts : StartsWith matcher letter) {part : Text}
    (foreign : ∀ character ∈ part, Character.spells letter character = false) (rest : Text) :
    Silent matcher part rest := by
  induction part with
  | nil => trivial
  | cons character part induction =>
      exact ⟨starts character _ (foreign character List.mem_cons_self),
        induction fun later member => foreign later (List.mem_cons_of_mem _ member)⟩

/-! ## All matches -/

/-- The positions of the matches that a search from left to right finds.  It goes on
behind each match, the first `skipped` characters being part of an earlier one. -/
def findAll (matcher : Text → Option Text) (skipped position : Nat) : Text → List Nat
  | [] => []
  | character :: rest =>
      match skipped with
      | remaining + 1 => findAll matcher remaining (position + 1) rest
      | 0 =>
          match matcher (character :: rest) with
          | none => findAll matcher 0 (position + 1) rest
          | some after =>
              position :: findAll matcher (rest.length - after.length) (position + 1) rest

/-- The positions at which the matcher accepts, whether or not matches overlap. -/
def acceptedAt (matcher : Text → Option Text) (position : Nat) : Text → List Nat
  | [] => []
  | character :: rest =>
      if (matcher (character :: rest)).isSome then
        position :: acceptedAt matcher (position + 1) rest
      else acceptedAt matcher (position + 1) rest

/-- No match starts inside another one. -/
def Disjoint (matcher : Text → Option Text) : Prop :=
  ∀ character text after, matcher (character :: text) = some after →
    ∃ inner, text = inner ++ after ∧ Silent matcher inner after

/-- When no match starts inside another one, going on behind a match misses none. -/
theorem findAll_eq_acceptedAt {matcher : Text → Option Text} (disjoint : Disjoint matcher)
    (part rest : Text) (silent : Silent matcher part rest) (position : Nat) :
    findAll matcher part.length position (part ++ rest) =
      acceptedAt matcher position (part ++ rest) := by
  generalize whole : part ++ rest = text
  induction text generalizing part rest position with
  | nil => rfl
  | cons character text induction =>
      cases part with
      | cons first part =>
          rw [List.cons_append, List.cons_eq_cons] at whole
          rcases whole with ⟨rfl, rfl⟩
          have quiet := silent.1
          simp only [List.length_cons, findAll, acceptedAt, quiet, Option.isSome_none,
            Bool.false_eq_true, if_false]
          exact induction part rest silent.2 (position + 1) rfl
      | nil =>
          cases matched : matcher (character :: text) with
          | none =>
              simp only [List.length_nil, findAll, acceptedAt, matched, Option.isSome_none,
                Bool.false_eq_true, if_false]
              exact induction [] text trivial (position + 1) rfl
          | some after =>
              rcases disjoint character text after matched with ⟨inner, rfl, quiet⟩
              simp only [List.length_nil, findAll, acceptedAt, matched, Option.isSome_some,
                if_true, List.length_append, Nat.add_sub_cancel]
              rw [induction inner after quiet (position + 1) rfl]

/-! ## Patterns that do not occur -/

theorem occurs_bar {matcher : Text → Option Text} {character : Char}
    (bars : Bars matcher character) (nothing : matcher [] = none) {left right : Text} :
    occurs matcher (left ++ character :: right) = false ↔
      occurs matcher left = false ∧ occurs matcher right = false := by
  rw [occurs_bar_eq bars nothing, Bool.or_eq_false_iff]

theorem occurs_right {matcher : Text → Option Text} {left right : Text}
    (absent : occurs matcher (left ++ right) = false) : occurs matcher right = false := by
  rw [← silent_nil_iff] at absent ⊢
  exact (silent_append.mp absent).2

/-- A pattern that needs a kind of character does not occur without it. -/
theorem occurs_eq_false_of_all {matcher : Text → Option Text} {property : Char → Prop}
    (unmatched : ∀ text, (∀ character ∈ text, property character) → matcher text = none)
    {text : Text} (all : ∀ character ∈ text, property character) :
    occurs matcher text = false := by
  induction text with
  | nil => rfl
  | cons character text induction =>
      have rest := induction fun later member => all later (List.mem_cons_of_mem _ member)
      simp only [occurs] at rest ⊢
      simpa [search?, unmatched _ all] using rest

theorem phrase?_eq_none_of_solid (first second text : Text)
    (solid : ∀ character ∈ text, Character.isBlank character = false) :
    phrase? first second text = none := by
  cases matched : phrase? first second text with
  | none => rfl
  | some rest =>
      rcases phrase?_eq_some matched with ⟨word, gap, last, rfl, -, nonempty, blank, -⟩
      rcases List.exists_cons_of_ne_nil nonempty with ⟨character, gap, rfl⟩
      have isBlank := blank character List.mem_cons_self
      rw [solid character (by simp)] at isBlank
      cases isBlank

theorem engineClause?_eq_none_of_no_equals (text : Text)
    (different : ∀ character ∈ text, character ≠ '=') : engineClause? text = none := by
  cases matched : engineClause? text with
  | none => rfl
  | some rest =>
      simp only [engineClause?, Option.bind_eq_some_iff] at matched
      rcases matched with ⟨afterWord, word, equals⟩
      rcases word?_eq_some_iff.mp word with ⟨letters, rfl, -⟩
      split at equals
      · rename_i after shape
        have member : '=' ∈ Text.skipBlanks afterWord := shape ▸ List.mem_cons_self
        have within := (List.dropWhile_sublist Character.isBlank).subset member
        exact absurd rfl (different '=' (List.mem_append_right _ within))
      · cases equals

end Sql

end SchemaSeed
