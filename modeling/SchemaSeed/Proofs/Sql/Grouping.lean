import SchemaSeed.Proofs.Sql.Nested

/-! Groups by their text.  The search for a group answers with positions; what it finds is
the text behind the first opening parenthesis, up to the one that closes it or to the end.
The search is refused exactly where that text, or the one searched in vain, ends inside
quotes. -/

namespace SchemaSeed

namespace Sql

/-- What follows the first opening parenthesis. -/
def opened? (scan : Scan) : Text → Option Text
  | [] => none
  | character :: rest =>
      if (scan.step character).depth = 0 then opened? (scan.step character) rest else some rest

/-- The text up to the parenthesis that closes the group which a scan is in. -/
def inside (scan : Scan) : Text → Text
  | [] => []
  | character :: rest =>
      if (scan.step character).depth = 0 then []
      else character :: inside (scan.step character) rest

theorem inside_isPrefix (scan : Scan) (text : Text) : inside scan text <+: text := by
  induction text generalizing scan with
  | nil => exact List.prefix_rfl
  | cons character rest induction =>
      simp only [inside]
      split
      · exact List.nil_prefix
      · exact List.cons_prefix_cons.mpr ⟨rfl, induction _⟩

/-- Only a parenthesis outside of quotes changes the depth. -/
theorem step_opens {scan : Scan} {character : Char} (outside : scan.depth = 0)
    (opens : (scan.step character).depth ≠ 0) :
    character = '(' ∧ scan.step character = ⟨.plain, 1⟩ := by
  rcases scan with ⟨mode, depth⟩
  cases outside
  cases mode with
  | quoted quote escaped => exact absurd rfl opens
  | plain =>
      by_cases opening : character = '('
      · subst opening
        exact ⟨rfl, rfl⟩
      · by_cases closing : character = ')'
        · subst closing
          exact absurd rfl opens
        · simp [Scan.step, opening, closing] at opens

theorem quote?_of_step_closes {scan : Scan} {character : Char} (within : scan.depth ≠ 0)
    (closes : (scan.step character).depth = 0) : scan.mode.quote? = none := by
  rcases scan with ⟨mode, depth⟩
  cases mode with
  | plain => rfl
  | quoted quote escaped => exact absurd closes within

/-! ## The search -/

/-- Inside a group the search ends where the text of the group does. -/
theorem searchFrom_inside {scan : Scan} (within : scan.depth ≠ 0) (opening position : Nat)
    (text : Text) :
    searchFrom scan (some opening) position text =
      match (scan.run (inside scan text)).mode.quote? with
      | some quote => .unterminated quote
      | none => .found ⟨opening, position + (inside scan text).length⟩ := by
  induction text generalizing scan position with
  | nil =>
      simp only [searchFrom, searchEnd, inside, Scan.run_nil]
      cases scan.mode.quote? <;> rfl
  | cons character rest induction =>
      by_cases closes : (scan.step character).depth = 0
      · have unquoted := quote?_of_step_closes within closes
        simp only [searchFrom, inside, closes, if_true, Scan.run_nil, unquoted]
        rfl
      · simp only [searchFrom, inside, closes, if_false, Scan.run_cons, List.length_cons]
        rw [induction closes, Nat.add_assoc, Nat.add_comm 1]

theorem searchFrom_opened {scan : Scan} (outside : scan.depth = 0) (position : Nat)
    (text : Text) :
    (opened? scan text = none ∧ searchFrom scan none position text =
        match (scan.run text).mode.quote? with
        | some quote => .unterminated quote
        | none => .absent) ∨
      ∃ lead rest, opened? scan text = some rest ∧ text = lead ++ '(' :: rest ∧
        searchFrom scan none position text =
          searchFrom ⟨.plain, 1⟩ (some (position + lead.length)) (position + lead.length + 1)
            rest := by
  induction text generalizing scan position with
  | nil =>
      refine .inl ⟨rfl, ?_⟩
      simp only [searchFrom, searchEnd, Scan.run_nil]
      cases scan.mode.quote? <;> rfl
  | cons character text induction =>
      by_cases still : (scan.step character).depth = 0
      · simp only [opened?, searchFrom, still, if_true, Scan.run_cons]
        rcases induction still (position + 1) with searched | ⟨lead, rest, opens, rfl, searched⟩
        · exact .inl searched
        · refine .inr ⟨character :: lead, rest, opens, rfl, ?_⟩
          rw [searched, List.length_cons, Nat.add_assoc position 1, Nat.add_comm 1]
      · rcases step_opens outside still with ⟨rfl, step⟩
        refine .inr ⟨[], text, ?_, rfl, ?_⟩
        · simp only [opened?, still, if_false]
        · simp only [searchFrom, step]
          rfl

/-! ## The group that is found -/

section Found

variable {text : Text} {start : Nat}

theorem slice_of_drop {lead rest content : Text} (shape : text.drop start = lead ++ '(' :: rest)
    (front : content <+: rest) :
    text.slice (start + lead.length + 1) (start + lead.length + 1 + content.length) = content := by
  rw [Text.slice, Nat.add_sub_cancel_left, Nat.add_assoc, ← List.drop_drop, shape,
    ← List.drop_drop, List.drop_left, List.drop_succ_cons, List.drop_zero]
  exact (List.prefix_iff_eq_take.mp front).symm

theorem findGroup_of_opened {rest : Text} (opens : opened? Scan.start (text.drop start) = some rest)
    (closed : (Scan.run ⟨.plain, 1⟩ (inside ⟨.plain, 1⟩ rest)).mode.quote? = none) :
    ∃ group, findGroup text start = .ok (some group) ∧
      text.slice (group.opening + 1) group.closing = inside ⟨.plain, 1⟩ rest := by
  have outside : Scan.start.depth = 0 := rfl
  rcases searchFrom_opened outside start (text.drop start) with
    ⟨none, -⟩ | ⟨lead, found, same, shape, searched⟩
  · rw [opens] at none
    cases none
  · rw [opens] at same
    cases same
    rw [searchFrom_inside (by decide), closed] at searched
    refine ⟨⟨start + lead.length, start + lead.length + 1 + (inside ⟨.plain, 1⟩ rest).length⟩, ?_,
      slice_of_drop shape (inside_isPrefix _ _)⟩
    simp only [findGroup, searched]

theorem opened_of_findGroup {group : Group} (found : findGroup text start = .ok (some group)) :
    ∃ rest, opened? Scan.start (text.drop start) = some rest ∧
      (Scan.run ⟨.plain, 1⟩ (inside ⟨.plain, 1⟩ rest)).mode.quote? = none ∧
      text.slice (group.opening + 1) group.closing = inside ⟨.plain, 1⟩ rest := by
  have outside : Scan.start.depth = 0 := rfl
  rw [findGroup] at found
  rcases searchFrom_opened outside start (text.drop start) with
    ⟨-, searched⟩ | ⟨lead, rest, opens, shape, searched⟩
  · rw [searched] at found
    cases quote : (Scan.start.run (text.drop start)).mode.quote? <;> simp [quote] at found
  · rw [searched, searchFrom_inside (by decide)] at found
    cases quote : (Scan.run ⟨.plain, 1⟩ (inside ⟨.plain, 1⟩ rest)).mode.quote? with
    | some quote => simp [quote] at found
    | none =>
        simp only [quote, Except.ok.injEq, Option.some.injEq] at found
        rw [← found]
        exact ⟨rest, opens, quote, slice_of_drop shape (inside_isPrefix _ _)⟩

end Found

end Sql

end SchemaSeed
