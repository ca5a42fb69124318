import SchemaSeed.Proofs.Text.Letter
import SchemaSeed.Sql.Pattern

/-! Names between backticks. -/

namespace SchemaSeed

namespace Character

/-- The codes of all blanks. -/
def blankCodes : List Nat := [
  9, 10, 11, 12, 13, 28, 29, 30, 31, 32, 0x85, 0xA0, 0x1680, 0x2000, 0x2001, 0x2002, 0x2003,
  0x2004, 0x2005, 0x2006, 0x2007, 0x2008, 0x2009, 0x200A, 0x2028, 0x2029, 0x202F, 0x205F, 0x3000]

theorem toNat_mem_blankCodes {character : Char} (blank : isBlank character = true) :
    character.toNat ∈ blankCodes := by
  simp only [isBlank, Bool.or_eq_true, Bool.and_eq_true, decide_eq_true_eq, beq_iff_eq] at blank
  simp only [blankCodes, List.mem_cons, List.not_mem_nil, or_false]
  omega

end Character

namespace Sql

set_option maxRecDepth 8000 in
theorem isBlank_of_isNameCharacter {character : Char}
    (known : isNameCharacter character = true) : Character.isBlank character = false := by
  have foreign : ∀ code ∈ Character.blankCodes, isNameCharacter (Char.ofNat code) = false := by
    decide
  cases blank : Character.isBlank character with
  | false => rfl
  | true =>
      have unknown := foreign character.toNat (Character.toNat_mem_blankCodes blank)
      rw [Char.ofNat_toNat, known] at unknown
      cases unknown

/-- The characters by which declarations are taken apart are none of a name's. -/
theorem isNameCharacter_of_isBlank (character : Char)
    (blank : Character.isBlank character = true) : isNameCharacter character = false := by
  cases known : isNameCharacter character with
  | false => rfl
  | true =>
      rw [isBlank_of_isNameCharacter known] at blank
      cases blank

theorem ne_of_isNameCharacter {character other : Char}
    (known : isNameCharacter character = true) (foreign : isNameCharacter other = false) :
    character ≠ other := by
  rintro rfl
  rw [known] at foreign
  cases foreign

/-- What can stand between backticks. -/
abbrev IsName (name : Text) : Prop :=
  name ≠ [] ∧ ∀ character ∈ name, isNameCharacter character = true

theorem quotedName?_append {name : Text} (nonempty : name ≠ [])
    (known : ∀ character ∈ name, isNameCharacter character = true) (rest : Text) :
    quotedName? (backtick :: name ++ backtick :: rest) = some (name, rest) := by
  have outside : isNameCharacter backtick = false := by decide
  have front : (name ++ backtick :: rest).takeWhile isNameCharacter = name := by
    rw [List.takeWhile_append_of_pos known]
    simp [outside]
  have back : (name ++ backtick :: rest).dropWhile isNameCharacter = backtick :: rest := by
    rw [List.dropWhile_append_of_pos known]
    simp [outside]
  rcases List.exists_cons_of_ne_nil nonempty with ⟨first, more, rfl⟩
  rw [List.cons_append, quotedName?]
  simp only [front, back, if_true]

/-- What is read as a name is one. -/
theorem quotedName?_eq_some {text name rest : Text}
    (found : quotedName? text = some (name, rest)) :
    name ≠ [] ∧ (∀ character ∈ name, isNameCharacter character = true) ∧
      text = backtick :: name ++ backtick :: rest := by
  cases text with
  | nil => cases found
  | cons character inside =>
      simp only [quotedName?] at found
      split at found
      · rename_i opens
        split at found
        · rename_i first more closing after front back
          split at found
          · rename_i closes
            cases found
            refine ⟨by simp [front], List.all_eq_true.mp List.all_takeWhile, ?_⟩
            rw [opens, List.cons_append, ← closes, ← back, List.takeWhile_append_dropWhile]
          · cases found
        · cases found
      · cases found

/-- What stands between two backticks ends at the second one. -/
theorem backtick_unique {name other rest more : Text}
    (inside : ∀ character ∈ name, character ≠ backtick)
    (insideOther : ∀ character ∈ other, character ≠ backtick)
    (same : name ++ backtick :: rest = other ++ backtick :: more) : name = other ∧ rest = more := by
  have front {front : Text} (rest : Text) (known : ∀ character ∈ front, character ≠ backtick) :
      (front ++ backtick :: rest).takeWhile (· != backtick) = front := by
    rw [List.takeWhile_append_of_pos (by simpa using known)]
    simp
  have names := front rest inside
  rw [same, front more insideOther] at names
  subst names
  exact ⟨rfl, (List.cons_eq_cons.mp (List.append_cancel_left same)).2⟩

theorem firstName?_eq_some {text name : Text} (found : firstName? text = some name) :
    name ≠ [] ∧ ∀ character ∈ name, isNameCharacter character = true := by
  rw [firstName?, Option.map_eq_some_iff] at found
  rcases found with ⟨⟨_, rest⟩, found, rfl⟩
  induction text with
  | nil => cases found
  | cons character text induction =>
      rw [search?] at found
      cases here : quotedName? (character :: text) with
      | none =>
          rw [here, Option.none_or] at found
          exact induction found
      | some pair =>
          rw [here, Option.some_or] at found
          cases found
          exact ⟨(quotedName?_eq_some here).1, (quotedName?_eq_some here).2.1⟩

/-- What is no name between two backticks is not read as one. -/
theorem quotedName?_of_improper {name : Text} (inside : ∀ character ∈ name, character ≠ backtick)
    (improper : ¬ IsName name) (rest : Text) :
    quotedName? (backtick :: name ++ backtick :: rest) = none := by
  cases found : quotedName? (backtick :: name ++ backtick :: rest) with
  | none => rfl
  | some pair =>
      rcases quotedName?_eq_some found with ⟨nonempty, known, shape⟩
      have insidePair : ∀ character ∈ pair.1, character ≠ backtick :=
        fun character member => ne_of_isNameCharacter (known character member) (by decide)
      have same := (backtick_unique inside insidePair (List.cons_eq_cons.mp shape).2).1
      exact absurd ⟨same ▸ nonempty, same ▸ known⟩ improper

/-- The first quoted name stands behind the first backtick. -/
theorem firstName?_append {part name : Text} (plain : ∀ character ∈ part, character ≠ backtick)
    (nonempty : name ≠ []) (known : ∀ character ∈ name, isNameCharacter character = true)
    (rest : Text) :
    firstName? (part ++ (backtick :: name ++ backtick :: rest)) = some name := by
  induction part with
  | nil =>
      have quoted := quotedName?_append nonempty known rest
      simp only [List.nil_append, firstName?]
      rw [List.cons_append] at quoted ⊢
      rw [search?, quoted]
      rfl
  | cons character part induction =>
      have other := plain character List.mem_cons_self
      have unquoted : quotedName?
          (character :: (part ++ (backtick :: name ++ backtick :: rest))) = none := by
        simp [quotedName?, other]
      have later := induction fun later member => plain later (List.mem_cons_of_mem _ member)
      rw [firstName?] at later ⊢
      rw [List.cons_append, search?, unquoted, Option.none_or]
      exact later

end Sql

end SchemaSeed
