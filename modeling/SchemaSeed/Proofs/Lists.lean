import Mathlib.Data.List.Forall2

/-! Facts on lists that several theories of this library rest on. -/

namespace SchemaSeed

-- What holds of the characters of a text is decided on the text, before any search
-- through all the characters there are.
instance (priority := 1100) decidableForallMem (text : List Char) (holds : Char → Prop)
    [DecidablePred holds] : Decidable (∀ character ∈ text, holds character) :=
  List.decidableBAll holds text

instance (priority := 1100) decidableForallFound (found : Option Char) (holds : Char → Prop)
    [DecidablePred holds] : Decidable (∀ character, found = some character → holds character) :=
  Option.decidableForallMem found

/-- Of two lists that are related element by element, every element of the second has
its partner in the first. -/
theorem exists_of_mem_right {relation : α → β → Prop} {left : List α} {right : List β}
    (related : List.Forall₂ relation left right) {value : β} (member : value ∈ right) :
    ∃ partner ∈ left, relation partner value := by
  induction related with
  | nil => cases member
  | cons first rest induction =>
      rcases List.mem_cons.mp member with rfl | later
      · exact ⟨_, List.mem_cons_self, first⟩
      · rcases induction later with ⟨partner, found, holds⟩
        exact ⟨partner, List.mem_cons_of_mem _ found, holds⟩

theorem exists_of_mem_left {relation : α → β → Prop} {left : List α} {right : List β}
    (related : List.Forall₂ relation left right) {value : α} (member : value ∈ left) :
    ∃ partner ∈ right, relation value partner :=
  exists_of_mem_right related.flip member

/-- What an appended list is related to can be cut at the same place. -/
theorem exists_append_of_append_left {relation : α → β → Prop} {first second : List α}
    {right : List β} (related : List.Forall₂ relation (first ++ second) right) :
    ∃ front back, right = front ++ back ∧ List.Forall₂ relation first front ∧
      List.Forall₂ relation second back := by
  induction first generalizing right with
  | nil => exact ⟨[], right, rfl, .nil, related⟩
  | cons value first induction =>
      cases related with
      | cons holds rest =>
          rcases induction rest with ⟨front, back, rfl, relatedFront, relatedBack⟩
          exact ⟨_ :: front, back, rfl, .cons holds relatedFront, relatedBack⟩

/-- A list is related to some other one if each of its elements has a partner. -/
theorem exists_forall₂_iff {relation : α → β → Prop} {left : List α} :
    (∃ right, List.Forall₂ relation left right) ↔
      ∀ value ∈ left, ∃ partner, relation value partner := by
  induction left with
  | nil => simp
  | cons value left induction =>
      rw [List.forall_mem_cons, ← induction]
      constructor
      · rintro ⟨_, _ | ⟨first, rest⟩⟩
        exact ⟨⟨_, first⟩, _, rest⟩
      · rintro ⟨⟨partner, first⟩, right, rest⟩
        exact ⟨partner :: right, .cons first rest⟩

/-- A computation over a list goes through if each of its steps does. -/
theorem mapM_eq_ok_iff {step : α → Except ε β} {values : List α} {results : List β} :
    values.mapM step = .ok results ↔
      List.Forall₂ (fun value result => step value = .ok result) values results := by
  induction values generalizing results with
  | nil => simp [pure, Except.pure, eq_comm]
  | cons value values induction =>
      rw [List.mapM_cons]
      cases first : step value with
      | error fault => simp [bind, Except.bind, first, List.forall₂_cons_left_iff]
      | ok result =>
          cases later : values.mapM step with
          | error fault =>
              have unread (more : List β) := @induction more
              simp only [later, reduceCtorEq, false_iff] at unread
              simp [bind, Except.bind, first, List.forall₂_cons_left_iff, unread]
          | ok more =>
              have known (other : List β) := @induction other
              simp only [later, Except.ok.injEq] at known
              simp only [List.forall₂_cons_left_iff, ← known, first, Except.ok.injEq]
              constructor
              · rintro ⟨⟩
                exact ⟨result, more, rfl, rfl, rfl⟩
              · rintro ⟨_, _, rfl, rfl, rfl⟩
                rfl

theorem exists_mapM_iff {step : α → Except ε β} {values : List α} :
    (∃ results, values.mapM step = .ok results) ↔
      ∀ value ∈ values, ∃ result, step value = .ok result := by
  rw [← exists_forall₂_iff]
  exact exists_congr fun results => mapM_eq_ok_iff

end SchemaSeed
