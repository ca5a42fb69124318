import Mathlib.Data.List.TakeWhile
import SchemaSeed.Column.Classify
import SchemaSeed.Proofs.Sql.Names
import SchemaSeed.Proofs.Sql.Nested

/-! The parts of a column declaration, read one after the other: its name, the name of
its type, the length in parentheses or the members in quotes. -/

namespace SchemaSeed

namespace Text

theorem skipBlanks_of_solid {character : Char} (solid : Character.isBlank character = false)
    (text : Text) : skipBlanks (character :: text) = character :: text := by
  rw [skipBlanks, List.dropWhile_cons, solid]
  rfl

/-- Trimming takes off what is unwanted at both ends, and stops at what is not. -/
theorem trim_append {unwanted : Char → Bool} {before inside after : Text}
    (front : ∀ character ∈ before, unwanted character = true)
    (back : ∀ character ∈ after, unwanted character = true)
    (kept : ∀ character ∈ inside, unwanted character = false) :
    trim unwanted (before ++ inside ++ after) = inside := by
  cases inside with
  | nil =>
      have whole : ∀ character ∈ before ++ [] ++ after, unwanted character = true := by
        intro character member
        rw [List.append_nil] at member
        rcases List.mem_append.mp member with inFront | inBack
        · exact front character inFront
        · exact back character inBack
      rw [trim, List.dropWhile_eq_nil_iff.mpr whole]
      rfl
  | cons first inside =>
      have head : unwanted first = false := kept first List.mem_cons_self
      have dropped : (before ++ first :: inside ++ after).dropWhile unwanted =
          first :: inside ++ after := by
        rw [List.append_assoc, List.dropWhile_append_of_pos front, List.cons_append,
          List.dropWhile_cons, head]
        rfl
      have reversed : ∀ character ∈ after.reverse, unwanted character = true := by
        intro character member
        exact back character (List.mem_reverse.mp member)
      have lasts : ∀ character ∈ (first :: inside).reverse, unwanted character = false := by
        intro character member
        exact kept character (List.mem_reverse.mp member)
      rw [trim, dropped, List.reverse_append, List.dropWhile_append_of_pos reversed]
      cases shape : (first :: inside).reverse with
      | nil => simp at shape
      | cons last others =>
          have lastKept := lasts last (shape ▸ List.mem_cons_self)
          rw [List.dropWhile_cons, lastKept]
          simp only [Bool.false_eq_true, if_false]
          rw [← shape, List.reverse_reverse]

/-- Text with solid ends is stripped already. -/
theorem strip_of_solid_ends {first last : Char} (inside : Text)
    (front : Character.isBlank first = false) (back : Character.isBlank last = false) :
    strip (first :: inside ++ [last]) = first :: inside ++ [last] := by
  rw [strip, trim, List.cons_append, List.dropWhile_cons, front]
  simp only [Bool.false_eq_true, if_false]
  rw [← List.cons_append, List.reverse_append, List.reverse_singleton, List.singleton_append,
    List.dropWhile_cons, back]
  simp

theorem strip_cons_of_solid {character : Char} (solid : Character.isBlank character = false)
    (text : Text) : (strip (character :: text)).isEmpty = false := by
  cases stripped : strip (character :: text) with
  | cons => rfl
  | nil =>
      rw [strip, trim, List.dropWhile_cons, solid, List.reverse_eq_nil_iff,
        List.dropWhile_eq_nil_iff] at stripped
      have blank := stripped character (by simp)
      rw [solid] at blank
      cases blank

end Text

namespace Column

theorem splitName_append {name : Text} (nonempty : name ≠ [])
    (known : ∀ character ∈ name, Sql.isNameCharacter character = true) (rest : Text) :
    splitName (Sql.backtick :: name ++ Sql.backtick :: rest) =
      (some name, Text.skipBlanks rest) := by
  have quoted := Sql.quotedName?_append nonempty known rest
  rw [List.cons_append] at quoted ⊢
  rw [splitName, Text.skipBlanks_of_solid (by decide), quoted]

theorem typeName?_append {name rest : Text} (nonempty : name ≠ [])
    (letters : ∀ character ∈ name, isTypeCharacter character = true ∧
      Character.isBlank character = false)
    (ended : ∀ character, rest.head? = some character → isTypeCharacter character = false) :
    typeName? (name ++ rest) = some (name, name.length) := by
  rcases List.exists_cons_of_ne_nil nonempty with ⟨first, more, rfl⟩
  have whole : (first :: more ++ rest).takeWhile isTypeCharacter = first :: more := by
    rw [List.takeWhile_append_of_pos fun character member => (letters character member).1]
    cases rest with
    | nil => simp
    | cons next rest => simp [ended next rfl]
  have solid := (letters first List.mem_cons_self).2
  simp only [typeName?]
  rw [List.cons_append, Text.skipBlanks_of_solid solid, ← List.cons_append, whole]
  simp

/-- The length between parentheses. -/
theorem lengthDigits_append {digits : Text} (nonempty : digits ≠ [])
    (known : ∀ digit ∈ digits, Character.isDecimalDigit digit = true ∧
      Character.isBlank digit = false) (rest : Text) :
    lengthDigits ('(' :: digits ++ ')' :: rest) = digits := by
  rcases List.exists_cons_of_ne_nil nonempty with ⟨first, more, rfl⟩
  have closing : Character.isDecimalDigit ')' = false := by decide
  have whole : (first :: more ++ ')' :: rest).takeWhile Character.isDecimalDigit =
      first :: more := by
    rw [List.takeWhile_append_of_pos fun digit member => (known digit member).1]
    simp [closing]
  have solid := (known first List.mem_cons_self).2
  rw [List.cons_append, lengthDigits, Text.skipBlanks_of_solid (by decide)]
  simp only
  rw [List.cons_append, Text.skipBlanks_of_solid solid, ← List.cons_append, whole]

/-- A member in single quotes is what stands between them. -/
theorem member_literal {content : Text}
    (unquoted : ∀ character ∈ content, isStringQuote character = false) :
    member ('\'' :: content ++ ['\'']) = content := by
  rw [member, Text.strip_of_solid_ends content (by decide) (by decide)]
  exact @Text.trim_append isStringQuote ['\''] content ['\''] (by decide) (by decide) unquoted

theorem membersFrom_group (lead : Text) {more : Text} {character : Char} {rest : List Text}
    (after : Text)
    (solid : Character.isBlank character = false)
    (nested : ∀ item ∈ (character :: more) :: rest, Sql.Nested false item) :
    membersFrom (lead ++ ('(' :: Text.join "," ((character :: more) :: rest) ++ ')' :: after))
        lead.length =
      .ok (((character :: more) :: rest).map member) := by
  have group : Sql.findGroup
      (lead ++ ('(' :: Text.join "," ((character :: more) :: rest) ++ ')' :: after)) lead.length =
        .ok (some ⟨lead.length,
          lead.length + 1 + (Text.join "," ((character :: more) :: rest)).length⟩) := by
    rw [Sql.findGroup, List.drop_left, Sql.searchFrom_group (Sql.nested_join nested)]
  have filled : (Text.strip (Text.join "," ((character :: more) :: rest))).isEmpty = false := by
    cases rest with
    | nil =>
        rw [Text.join_singleton]
        exact Text.strip_cons_of_solid solid more
    | cons second rest =>
        rw [Text.join_cons_cons]
        exact Text.strip_cons_of_solid solid _
  rw [membersFrom, group]
  simp only [Sql.slice_group, filled, Bool.false_eq_true, if_false, Sql.splitTop_join nested]
  rfl

/-- Once the parts of a declaration are read, its category decides. -/
theorem classify_of_parts {definition name declaration typeName : Text} {typeEnd : Nat}
    {category : Category} (split : splitName definition = (some name, declaration))
    (read : typeName? declaration = some (typeName, typeEnd))
    (matched : (matchKeyword typeName).map (·.2) = some category) :
    classify definition =
      ofCategory name (Sql.mentionsUnsigned declaration) declaration typeEnd category := by
  rcases Option.map_eq_some_iff.mp matched with ⟨⟨keyword, found⟩, known, rfl⟩
  simp only [classify, split, read, Option.bind_some, known, Option.map_some, Option.getD_some]

end Column

end SchemaSeed
