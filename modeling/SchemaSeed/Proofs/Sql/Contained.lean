import SchemaSeed.Proofs.Column.Gap

/-! Declarations that stand between the commas of a body.  Each one closes the quotes and
the parentheses that it opens, and none besides; its commas stand inside of them.  However
many of them are joined, the body comes apart into just these again. -/

namespace SchemaSeed

namespace Sql

/-! ## Nested text -/

/-- Nested text does not leave the group that it stands in, and ends at its level. -/
theorem Nested.scan {commas : Bool} {text : Text} (nested : Nested commas text) (depth : Nat) :
    inside ⟨.plain, depth + 1⟩ text = text ∧
      Scan.run ⟨.plain, depth⟩ text = ⟨.plain, depth⟩ := by
  induction nested generalizing depth with
  | nil => exact ⟨rfl, rfl⟩
  | plain unquoted noOpening noClosing separates =>
      have step := step_plain unquoted noOpening noClosing
      exact ⟨by simp [inside, step], step depth⟩
  | quoted opens inside =>
      have closed := closed_quoted opens (Enclosed.of_plain inside)
      have held := (closed.steady (depth + 1)).inside_append (Nat.succ_ne_zero depth) []
      rw [List.append_nil] at held
      exact ⟨held.trans (List.append_nil _), closed.returns depth⟩
  | @group _ inner nested induction =>
      have opens (depth : Nat) : Scan.step ⟨.plain, depth⟩ '(' = ⟨.plain, depth + 1⟩ := rfl
      have closes (depth : Nat) : Scan.step ⟨.plain, depth + 1⟩ ')' = ⟨.plain, depth⟩ := rfl
      rcases induction (depth + 1) with ⟨held, returns⟩
      have returnsBelow := (induction (depth + 2)).2
      constructor
      · rw [List.cons_append, inside, opens, if_neg (Nat.succ_ne_zero _), inside_append,
          if_pos held, returnsBelow]
        rfl
      · rw [List.cons_append, Scan.run_cons, opens, Scan.run_append, returns]
        rfl
  | append first second inductionFirst inductionSecond =>
      constructor
      · rw [inside_append, if_pos (inductionFirst depth).1, (inductionFirst (depth + 1)).2,
          (inductionSecond depth).1]
      · rw [Scan.run_append, (inductionFirst depth).2, (inductionSecond depth).2]

theorem Nested.unbroken {text : Text} (nested : Nested false text) :
    Unbroken "," Scan.start text := by
  have folded : text.foldl (Parts.step ",") ⟨Scan.start, [], []⟩ =
      ⟨Scan.start, [], text.reverse ++ []⟩ := foldl_step_nested nested nofun [] []
  have parts := (foldl_step_eq "," Scan.start [] [] text).2
  rw [folded] at parts
  rw [Unbroken, ← continued_nil_partsFrom]
  simpa [Parts.toList] using parts.symm

/-! ## Declarations -/

/-- Text that may stand between two commas of a body. -/
structure Contained (text : Text) : Prop where
  /-- No parenthesis in it closes the one that was open in front of it. -/
  held : inside ⟨.plain, 1⟩ text = text
  /-- It ends outside of quotes, and with as many parentheses open as there were before. -/
  returns : Scan.run ⟨.plain, 1⟩ text = ⟨.plain, 1⟩
  /-- Its commas stand inside of quotes or of its own parentheses. -/
  whole : ∀ before after, text = before ++ ',' :: after → (Scan.start.run before).isTop = false

theorem contained_iff {text : Text} :
    Contained text ↔ inside ⟨.plain, 1⟩ text = text ∧
      Scan.run ⟨.plain, 1⟩ text = ⟨.plain, 1⟩ ∧ Unbroken "," Scan.start text := by
  have commas := @unbroken_iff ',' rfl (by decide) Scan.start text
  exact ⟨fun contained => ⟨contained.held, contained.returns, commas.mpr contained.whole⟩,
    fun ⟨held, returns, unbroken⟩ => ⟨held, returns, commas.mp unbroken⟩⟩

instance (text : Text) : Decidable (Contained text) :=
  decidable_of_iff (inside ⟨.plain, 1⟩ text = text ∧ Scan.run ⟨.plain, 1⟩ text = ⟨.plain, 1⟩ ∧
    partsFrom "," Scan.start text = [text]) contained_iff.symm

namespace Contained

theorem run {text : Text} (contained : Contained text) : Scan.start.run text = Scan.start :=
  run_of_held contained.held contained.returns

theorem unbroken {text : Text} (contained : Contained text) : Unbroken "," Scan.start text :=
  (contained_iff.mp contained).2.2

theorem of_nested {text : Text} (nested : Nested false text) : Contained text :=
  contained_iff.mpr ⟨(nested.scan 0).1, (nested.scan 1).2, nested.unbroken⟩

end Contained

/-! ## Bodies -/

/-- A block with nothing but the declarations in its body. -/
def blockOf (head : Text) (declarations : List Text) : Text :=
  head ++ ('(' :: Text.join "," declarations ++ [')'])

section Body

variable {declarations : List Text}
  (contained : ∀ declaration ∈ declarations, Contained declaration)

include contained

theorem held_join :
    inside ⟨.plain, 1⟩ (Text.join "," declarations) = Text.join "," declarations ∧
      Scan.run ⟨.plain, 1⟩ (Text.join "," declarations) = ⟨.plain, 1⟩ := by
  induction declarations with
  | nil => exact ⟨rfl, rfl⟩
  | cons first rest induction =>
      rw [List.forall_mem_cons] at contained
      rcases contained with ⟨here, later⟩
      cases rest with
      | nil =>
          rw [Text.join_singleton]
          exact ⟨here.held, here.returns⟩
      | cons second rest =>
          rcases induction later with ⟨held, returns⟩
          have comma : inside ⟨.plain, 1⟩ ",".toList = ",".toList := rfl
          have returnsComma : Scan.run ⟨.plain, 1⟩ ",".toList = ⟨.plain, 1⟩ := rfl
          rw [Text.join_cons_cons, List.append_assoc]
          constructor
          · rw [inside_append, if_pos here.held, here.returns, inside_append, if_pos comma,
              returnsComma, held]
          · rw [Scan.run_append, here.returns, Scan.run_append, returnsComma, returns]

/-- The pieces of such a block are its head and its declarations. -/
theorem pieces?_blockOf {head : Text} (steady : Steady Scan.start head)
    (closed : (Scan.start.run head).mode = .plain) (nonempty : declarations ≠ []) :
    pieces? (blockOf head declarations) = some (head :: declarations) := by
  rcases held_join contained with ⟨held, returns⟩
  have outside : Scan.start.depth = 0 := rfl
  have start : Scan.start.run head = Scan.start :=
    congrArg₂ Scan.mk closed (steady.depth.trans outside)
  have opens : opened? Scan.start (blockOf head declarations) =
      some (Text.join "," declarations ++ [')']) := by
    rw [blockOf, steady.opened?_append outside, start]
    rfl
  have front : unopened Scan.start (blockOf head declarations) = head := by
    rw [blockOf, steady.unopened_append outside, start]
    exact List.append_nil head
  have body : inside ⟨.plain, 1⟩ (Text.join "," declarations ++ [')']) =
      Text.join "," declarations := by
    rw [inside_append, if_pos held, returns]
    exact List.append_nil _
  have parts : partsFrom "," Scan.start (Text.join "," declarations) = declarations := by
    rcases List.exists_cons_of_ne_nil nonempty with ⟨first, rest, rfl⟩
    exact (@partsFrom_join ',' rfl (by decide) _ _
      (fun part member => (contained part member).unbroken)
      fun part member => (contained part (List.dropLast_subset _ member)).run).1
  rw [pieces?, content?, opens]
  simp only [body, returns, Mode.quote?, Option.map_some, front, parts]

end Body

end Sql

end SchemaSeed
