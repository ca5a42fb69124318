import SchemaSeed.Proofs.Column.Classify
import SchemaSeed.Proofs.Sql.Blanks

/-! The members of an enumeration and how they were written.  A column is read from a
declaration with its blanks collapsed; its members are nevertheless those items that the
original declaration lists, each collapsed by itself and without quotes around it. -/

namespace SchemaSeed

namespace Sql

open Text

theorem quotedName?_squeezed {character : Char} {rest restShort name afterShort : Text}
    (squeezed : Squeezed false rest restShort)
    (found : quotedName? (character :: restShort) = some (name, afterShort)) :
    ∃ after, quotedName? (character :: rest) = some (name, after) ∧
      Squeezed false after afterShort := by
  rcases squeezed.takeWhile_eq isNameCharacter_of_isBlank with ⟨same, remaining⟩
  simp only [quotedName?, same] at found ⊢
  generalize restShort.takeWhile isNameCharacter = taken at found ⊢
  generalize restShort.dropWhile isNameCharacter = dropped at found remaining
  split at found
  · split at found
    · split at found
      · rename_i closes
        rw [closes] at remaining
        cases found
        generalize rest.dropWhile isNameCharacter = left at remaining
        cases remaining with
        | @solid _ _ after _ _ later => exact ⟨after, by simp [*], later⟩
      · cases found
    · cases found
  · cases found

end Sql

namespace Column

open Text

/-- The items in the first parentheses behind the name of the type, as they were written. -/
def items (definition : Text) : List Text :=
  let declaration := (splitName definition).2
  match typeName? declaration with
  | none => []
  | some (_, typeEnd) =>
      match Sql.findGroup declaration typeEnd with
      | .ok (some group) =>
          (Sql.splitTop "," (declaration.slice (group.opening + 1) group.closing)).toOption.getD []
      | _ => []

/-- What becomes of an item: its blanks are collapsed, and quotes around it fall away. -/
def bare (item : Text) : Text :=
  item.collapse.trim isStringQuote

theorem splitName_squeezed {definition name declaration : Text}
    (split : splitName definition.collapse = (some name, declaration)) :
    ∃ original, splitName definition = (some name, original) ∧
      Squeezed true original declaration := by
  rw [splitName] at split
  rcases (squeezed_collapse definition).1.skipBlanks_cases with
    ⟨-, none⟩ | ⟨character, rest, restShort, -, front, frontShort, later⟩
  · rw [none] at split
    cases split
  · rw [frontShort] at split
    cases found : Sql.quotedName? (character :: restShort) with
    | none => simp [found] at split
    | some pair =>
        rcases pair with ⟨_, afterShort⟩
        simp only [found, Prod.mk.injEq, Option.some.injEq] at split
        rcases split with ⟨rfl, rfl⟩
        rcases Sql.quotedName?_squeezed later found with ⟨after, original, squeezed⟩
        refine ⟨after.skipBlanks, ?_, squeezed.skipBlanks⟩
        rw [splitName, front]
        simp only [original]

theorem drop_takeWhile (wanted : Char → Bool) (text : Text) :
    text.drop (text.takeWhile wanted).length = text.dropWhile wanted := by
  have dropped := @List.drop_left _ (text.takeWhile wanted) (text.dropWhile wanted)
  rwa [List.takeWhile_append_dropWhile] at dropped

theorem drop_of_typeName? {text name : Text} {typeEnd : Nat}
    (found : typeName? text = some (name, typeEnd)) :
    text.drop typeEnd = text.skipBlanks.dropWhile isTypeCharacter := by
  simp only [typeName?] at found
  split at found
  · cases found
  · simp only [Option.some.injEq, Prod.mk.injEq] at found
    rcases found with ⟨-, rfl⟩
    have front := @List.takeWhile_append_dropWhile _ Character.isBlank text
    have passed : text.length - text.skipBlanks.length =
        (text.takeWhile Character.isBlank).length := by
      have length := congrArg List.length front
      rw [List.length_append, ← skipBlanks] at length
      omega
    rw [passed, ← List.drop_drop, drop_takeWhile, ← skipBlanks, drop_takeWhile]

theorem typeName?_squeezed {gap : Bool} {original declaration name : Text} {typeEnd : Nat}
    (squeezed : Squeezed gap original declaration)
    (found : typeName? declaration = some (name, typeEnd)) :
    ∃ originalEnd, typeName? original = some (name, originalEnd) ∧
      Squeezed false (original.drop originalEnd) (declaration.drop typeEnd) := by
  have solid : ∀ character, Character.isBlank character = true →
      isTypeCharacter character = false := by
    have foreign : ∀ code ∈ Character.blankCodes, isTypeCharacter (Char.ofNat code) = false := by
      decide
    intro character blank
    rw [← Char.ofNat_toNat character]
    exact foreign _ (Character.toNat_mem_blankCodes blank)
  have dropped := drop_of_typeName? found
  rw [dropped]
  rcases squeezed.skipBlanks_cases with
    ⟨-, none⟩ | ⟨character, rest, restShort, kept, front, frontShort, later⟩
  · simp [typeName?, none] at found
  · have whole : Squeezed false original.skipBlanks declaration.skipBlanks := by
      rw [front, frontShort]
      exact .solid kept later
    rcases whole.takeWhile_eq solid with ⟨same, remaining⟩
    simp only [typeName?] at found
    split at found
    · cases found
    · rename_i nonempty
      rw [← same] at nonempty found
      simp only [Option.some.injEq, Prod.mk.injEq] at found
      rcases found with ⟨rfl, -⟩
      have known : typeName? original = some (original.skipBlanks.takeWhile isTypeCharacter,
          original.length - original.skipBlanks.length +
            (original.skipBlanks.takeWhile isTypeCharacter).length) := by
        simp [typeName?, nonempty]
      refine ⟨_, known, ?_⟩
      rw [drop_of_typeName? known]
      exact remaining

theorem map_member {written shorts : List Text}
    (squeezed : List.Forall₂ (Squeezed false) written shorts) :
    shorts.map member = written.map bare := by
  induction squeezed with
  | nil => rfl
  | cons here _ induction =>
      rw [List.map_cons, List.map_cons, induction, member, here.strip_eq, bare]

/-- The group of a squeezed declaration is that of the declaration itself, and so are its
items. -/
theorem membersFrom_squeezed {original declaration : Text} {originalEnd typeEnd : Nat}
    (squeezed : Squeezed false (original.drop originalEnd) (declaration.drop typeEnd))
    {members : List Text} (read : membersFrom declaration typeEnd = .ok members)
    (nonempty : members ≠ []) :
    ∃ group written, Sql.findGroup original originalEnd = .ok (some group) ∧
      Sql.splitTop "," (original.slice (group.opening + 1) group.closing) = .ok written ∧
      members = written.map bare := by
  simp only [membersFrom] at read
  split at read
  · cases read
  · cases read
    exact absurd rfl nonempty
  · rename_i group found
    rcases Sql.opened_of_findGroup found with ⟨restShort, opensShort, closedShort, slice⟩
    have start : Sql.Scan.start.Reads false := Sql.reads_plain false 0
    rcases Sql.opened?_squeezed squeezed start rfl opensShort with ⟨rest, opens, later⟩
    have insides := Sql.inside_squeezed later (Sql.reads_plain false 1) (by decide)
    have closed := (Sql.quote?_run_squeezed insides (Sql.reads_plain false 1)).trans closedShort
    rcases Sql.findGroup_of_opened opens closed with ⟨originalGroup, originalFound, originalSlice⟩
    rw [slice] at read
    split at read
    · cases read
      exact absurd rfl nonempty
    · cases split : Sql.splitTop "," (Sql.inside ⟨.plain, 1⟩ restShort) with
      | error fault =>
          rw [split] at read
          cases read
      | ok partsShort =>
          rcases Sql.splitTop_eq_ok split with ⟨unquotedShort, rfl⟩
          have unquoted := (Sql.quote?_run_squeezed insides start).trans unquotedShort
          rcases Sql.partsFrom_squeezed insides start with
            ⟨first, others, firstShort, othersShort, parts, shorts, begins, continues⟩
          rw [split, shorts] at read
          refine ⟨originalGroup, first :: others, originalFound, ?_, ?_⟩
          · rw [originalSlice, Sql.splitTop_eq, unquoted, parts]
          · cases read
            exact map_member (.cons begins continues)

theorem classify_enumeration {definition : Text} {column : Column}
    (classified : classify definition = .ok column)
    (category : column.category = some .enumeration) :
    ∃ typeName typeEnd, typeName? (splitName definition).2 = some (typeName, typeEnd) ∧
      membersFrom (splitName definition).2 typeEnd = .ok column.members ∧
      column.members ≠ [] := by
  simp only [classify] at classified
  split at classified
  · cases classified
    cases category
  · rename_i found
    rcases Option.bind_eq_some_iff.mp found with ⟨⟨typeName, place⟩, typed, mapped⟩
    rcases Option.map_eq_some_iff.mp mapped with ⟨⟨keyword, _⟩, -, same⟩
    rcases Prod.mk.inj same with ⟨rfl, rfl⟩
    refine ⟨typeName, place, typed, ?_⟩
    simp only [ofCategory] at classified
    split at classified
    · rename_i temporal
      cases classified
      rw [Option.some.inj category] at temporal
      cases temporal
    · split at classified
      · cases classified
      · split at classified
        · split at classified
          · cases classified
          · cases classified
            cases category
          · rename_i nonempty read
            cases classified
            exact ⟨read, nonempty⟩
        · cases classified
          cases category
        · rename_i other _
          cases classified
          exact absurd (Option.some.inj category) other

/-- The members of a column are the items of its definition, made bare. -/
theorem members_eq_items {definition : Text} {column : Column}
    (named : (splitName definition.collapse).1.isSome = true)
    (classified : classify definition.collapse = .ok column)
    (category : column.category = some .enumeration) :
    column.members = (items definition).map bare ∧ column.members ≠ [] := by
  rcases Option.isSome_iff_exists.mp named with ⟨name, named⟩
  rcases splitName_squeezed (Prod.ext named rfl) with ⟨original, split, squeezed⟩
  rcases classify_enumeration classified category with ⟨typeName, typeEnd, typed, read, nonempty⟩
  rcases typeName?_squeezed squeezed typed with ⟨originalEnd, originalTyped, behind⟩
  rcases membersFrom_squeezed behind read nonempty with ⟨group, written, found, parts, members⟩
  refine ⟨?_, nonempty⟩
  simp only [items, split, originalTyped, found, parts, members]
  rfl

end Column

end SchemaSeed
