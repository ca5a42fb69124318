import SchemaSeed.Proofs.Column.Items
import SchemaSeed.Proofs.Sql.Between
import SchemaSeed.Proofs.Table.Agreement

/-! The front of a declaration.  Its name and its type are read before a character that can
belong to neither, and what is read of a declaration from there on is a text that is lexical
if the declaration is.  Two declarations have the same column if their texts behind the type
hold the same length and the same members. -/

namespace SchemaSeed

open Sql

namespace Sql

/-- No name in backticks goes on over the character. -/
structure BarsNames (character : Char) : Prop where
  unnamed : isNameCharacter character = false
  noBacktick : character ≠ backtick

/-- No name, no blank and no length goes on over the character, and none starts with it. -/
structure Fences (character : Char) : Prop extends BarsNames character where
  solid : Character.isBlank character = false
  untyped : Column.isTypeCharacter character = false
  noDigit : Character.isDecimalDigit character = false
  noOpening : character ≠ '('

theorem fences_of_opens {quote : Char} (opens : quote = '\'' ∨ quote = '"') : Fences quote := by
  rcases opens with rfl | rfl <;>
    exact ⟨⟨by decide, by decide⟩, by decide, by decide, by decide, by decide⟩

theorem takeWhile_bar {wanted : Char → Bool} {character : Char} (stops : wanted character = false)
    (left right : Text) :
    (left ++ character :: right).takeWhile wanted = left.takeWhile wanted := by
  induction left with
  | nil => simp [stops]
  | cons first left induction =>
      rw [List.cons_append, List.takeWhile_cons, List.takeWhile_cons, induction]

theorem quotedName?_bar {character : Char} (bars : BarsNames character) (left right : Text) :
    quotedName? (left ++ character :: right) =
      (quotedName? left).map fun found => (found.1, found.2 ++ character :: right) := by
  cases found : quotedName? left with
  | some pair =>
      rcases quotedName?_eq_some found with ⟨nonempty, known, rfl⟩
      have longer := quotedName?_append nonempty known (pair.2 ++ character :: right)
      rwa [← List.cons_append, ← List.append_assoc] at longer
  | none =>
      cases longer : quotedName? (left ++ character :: right) with
      | none => rfl
      | some pair =>
          rcases quotedName?_eq_some longer with ⟨nonempty, known, shape⟩
          have absent : character ∉ backtick :: pair.1 ++ [backtick] := by
            intro member
            rcases List.mem_append.mp member with front | last
            · rcases List.mem_cons.mp front with same | inside
              · exact bars.noBacktick same
              · have named := known character inside
                rw [bars.unnamed] at named
                cases named
            · exact bars.noBacktick (List.mem_singleton.mp last)
          rw [quoted_append] at shape
          rcases List.append_eq_append_iff.mp shape with ⟨more, whole, later⟩ | ⟨more, whole, -⟩
          · cases more with
            | nil =>
                rw [List.append_nil] at whole
                have short := quotedName?_append nonempty known []
                rw [whole, found] at short
                cases short
            | cons first more =>
                rw [List.cons_append] at later
                rw [whole, (List.cons_eq_cons.mp later).1] at absent
                simp at absent
          · have short := quotedName?_append nonempty known more
            rw [quoted_append, ← whole, found] at short
            cases short

end Sql

namespace Column

variable {character : Char} (fences : Fences character)

include fences

theorem splitName_bar (left right : Text) :
    ((splitName left).1 = none ∧ (splitName (left ++ character :: right)).1 = none) ∨
      ∃ name rest, splitName left = (some name, rest) ∧
        splitName (left ++ character :: right) = (some name, rest ++ character :: right) := by
  simp only [splitName, skipBlanks_append_of_not_blank fences.solid,
    quotedName?_bar fences.toBarsNames]
  cases quotedName? left.skipBlanks with
  | none => exact .inl ⟨rfl, rfl⟩
  | some pair =>
      exact .inr ⟨pair.1, _, rfl,
        by simp only [Option.map_some, skipBlanks_append_of_not_blank fences.solid]⟩

omit fences in
theorem splitName_eq_some {text name rest : Text} (split : splitName text = (some name, rest)) :
    ∃ gap behind, text = gap ++ (backtick :: name ++ backtick :: behind) ∧
      (∀ character ∈ gap, Character.isBlank character = true) ∧
      (∀ character ∈ name, isNameCharacter character = true) ∧
      rest = Text.skipBlanks behind := by
  simp only [splitName] at split
  cases found : quotedName? text.skipBlanks with
  | none =>
      rw [found] at split
      cases split
  | some pair =>
      rw [found] at split
      cases split
      rcases quotedName?_eq_some found with ⟨-, known, shape⟩
      refine ⟨text.takeWhile Character.isBlank, pair.2, ?_,
        fun character member => List.mem_takeWhile_imp member, known, rfl⟩
      rw [← shape, Text.skipBlanks, List.takeWhile_append_dropWhile]

theorem typeName?_bar (left right : Text) :
    typeName? (left ++ character :: right) = typeName? left := by
  have shorter : left.skipBlanks.length ≤ left.length :=
    (List.dropWhile_sublist Character.isBlank).length_le
  have lengths : (left ++ character :: right).length -
      (left.skipBlanks ++ character :: right).length =
        left.length - left.skipBlanks.length := by
    rw [List.length_append, List.length_append]
    omega
  simp only [typeName?, skipBlanks_append_of_not_blank fences.solid,
    takeWhile_bar fences.untyped, lengths]

theorem lengthDigits_bar (left right : Text) :
    lengthDigits (left ++ character :: right) = lengthDigits left := by
  simp only [lengthDigits, skipBlanks_append_of_not_blank fences.solid]
  cases behind : left.skipBlanks with
  | nil =>
      split
      · rename_i shape
        exact absurd (List.cons_eq_cons.mp shape).1 fences.noOpening
      · rfl
  | cons first more =>
      by_cases opens : first = '('
      · subst opens
        have digits := takeWhile_bar fences.noDigit (Text.skipBlanks more) right
        rw [← skipBlanks_append_of_not_blank fences.solid] at digits
        exact digits
      · simp [opens]

end Column

/-! ## Behind the front -/

namespace Sql

theorem closed_of_blank {gap : Text}
    (blank : ∀ character ∈ gap, Character.isBlank character = true) : Closed gap :=
  closed_of_plain fun character member =>
    have ordinary := ordinary_of_blank (blank character member)
    ⟨ordinary.1, ordinary.2.1, ordinary.2.2.1, ordinary.2.2.2.2⟩

theorem unquoted_of_blank {gap : Text}
    (blank : ∀ character ∈ gap, Character.isBlank character = true) :
    ∀ character ∈ gap, isQuote character = false :=
  fun character member => (ordinary_of_blank (blank character member)).1

theorem Lexical.tail_of_unquoted {admits : Text → Prop} {part rest : Text}
    (lexical : Lexical false admits (part ++ rest))
    (unquoted : ∀ character ∈ part, isQuote character = false) : Lexical false admits rest := by
  induction part with
  | nil => exact lexical
  | cons character part induction =>
      rw [List.forall_mem_cons] at unquoted
      exact induction (lexical.tail unquoted.1 (by simp)) unquoted.2

theorem Lexical.skipBlanks {admits : Text → Prop} {text : Text}
    (lexical : Lexical false admits text) : Lexical false admits text.skipBlanks := by
  rw [← @List.takeWhile_append_dropWhile _ Character.isBlank text] at lexical
  exact lexical.tail_of_unquoted (unquoted_of_blank fun character member =>
    List.mem_takeWhile_imp member)

theorem ordinary_of_isTypeCharacter {character : Char}
    (known : Column.isTypeCharacter character = true) :
    isQuote character = false ∧ character ≠ '(' ∧ character ≠ ')' ∧ character ≠ ',' := by
  have different {other : Char} (foreign : Column.isTypeCharacter other = false) :
      character ≠ other := by
    rintro rfl
    rw [known] at foreign
    cases foreign
  refine ⟨?_, different (by decide), different (by decide), different (by decide)⟩
  simp [isQuote, different (show Column.isTypeCharacter '\'' = false by decide),
    different (show Column.isTypeCharacter '"' = false by decide),
    different (show Column.isTypeCharacter backtick = false by decide)]

end Sql

namespace Column

variable {text name rest : Text}

/-- What stands before the rest of a declaration is closed, and the rest is lexical as the
declaration is. -/
theorem exists_lead (split : splitName text = (some name, rest)) :
    ∃ lead, text = lead ++ rest ∧ Closed lead ∧
      ∀ admits, Lexical false admits text → Lexical false admits rest := by
  rcases splitName_eq_some split with ⟨gap, behind, rfl, blank, known, rfl⟩
  have inside : ∀ character ∈ name, character ≠ backtick :=
    fun character member => ne_of_isNameCharacter (known character member) (by decide)
  have blanks : ∀ character ∈ behind.takeWhile Character.isBlank,
      Character.isBlank character = true := fun character member => List.mem_takeWhile_imp member
  have named : Closed (backtick :: name ++ [backtick]) :=
    closed_quoted (by decide) (.of_plain fun character member =>
      ⟨inside character member, ne_of_isNameCharacter (known character member) (by decide)⟩)
  refine ⟨gap ++ (backtick :: name ++ [backtick]) ++ behind.takeWhile Character.isBlank, ?_,
    ((closed_of_blank blank).append named).append (closed_of_blank blanks),
    fun admits lexical => ?_⟩
  · rw [Text.skipBlanks, List.append_assoc, List.takeWhile_append_dropWhile, quoted_append]
    exact (List.append_assoc _ _ _).symm
  · exact ((lexical.tail_of_unquoted (unquoted_of_blank blank)).behind_of_name inside).skipBlanks

theorem exists_typed {typeName : Text} {typeEnd : Nat}
    (typed : typeName? text = some (typeName, typeEnd)) :
    typeEnd ≤ text.length ∧ ∃ lead, text = lead ++ text.drop typeEnd ∧ Closed lead ∧
      ∀ admits, Lexical false admits text → Lexical false admits (text.drop typeEnd) := by
  have dropped := drop_of_typeName? typed
  have blank : ∀ character ∈ text.takeWhile Character.isBlank,
      Character.isBlank character = true := fun character member => List.mem_takeWhile_imp member
  have letters : ∀ character ∈ text.skipBlanks.takeWhile isTypeCharacter,
      isTypeCharacter character = true := fun character member => List.mem_takeWhile_imp member
  have whole : text = (text.takeWhile Character.isBlank ++
      text.skipBlanks.takeWhile isTypeCharacter) ++ text.drop typeEnd := by
    rw [dropped, List.append_assoc, List.takeWhile_append_dropWhile, Text.skipBlanks,
      List.takeWhile_append_dropWhile]
  refine ⟨?_, _, whole, (closed_of_blank blank).append (closed_of_plain fun character member =>
    ordinary_of_isTypeCharacter (letters character member)), fun admits lexical => ?_⟩
  · simp only [typeName?] at typed
    split at typed
    · cases typed
    · rcases Prod.mk.inj (Option.some.inj typed) with ⟨-, rfl⟩
      have shorter := (List.dropWhile_sublist Character.isBlank (l := text)).length_le
      have letters := (List.takeWhile_sublist isTypeCharacter (l := text.skipBlanks)).length_le
      rw [Text.skipBlanks] at letters ⊢
      omega
  · rw [whole] at lexical
    refine lexical.tail_of_unquoted fun character member => ?_
    rcases List.mem_append.mp member with front | back
    · exact unquoted_of_blank blank character front
    · exact (ordinary_of_isTypeCharacter (letters character back)).1

/-! ## The column -/

/-- The length and the members of a declaration decide what becomes of its category. -/
theorem ofCategory_agree {declaration other : Text} {typeEnd otherEnd : Nat}
    (digits : lengthDigits (declaration.drop typeEnd) = lengthDigits (other.drop otherEnd))
    (name : Text) (unsigned : Bool) (category : Category)
    (members : category = .enumeration →
      members? (declaration.drop typeEnd) = members? (other.drop otherEnd)) :
    Agree (ofCategory name unsigned declaration typeEnd category)
      (ofCategory name unsigned other otherEnd category) := by
  simp only [ofCategory, declaredLength, digits]
  split
  · exact .refl _
  · split
    · exact .refl _
    · cases category with
      | enumeration =>
          simp only
          have same := members rfl
          cases found : members? (declaration.drop typeEnd) with
          | none =>
              rcases membersFrom_of_members?_eq_none found with ⟨quote, failed⟩
              rcases membersFrom_of_members?_eq_none (same ▸ found) with ⟨_, failedOther⟩
              rw [failed, failedOther]
              exact .error rfl
          | some read =>
              rw [membersFrom_of_members?_eq_some found,
                membersFrom_of_members?_eq_some (same ▸ found)]
              exact .refl _
      | _ => exact .refl _

end Column

end SchemaSeed
