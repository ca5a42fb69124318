import SchemaSeed.Proofs.Literal.Fillable
import SchemaSeed.Proofs.Table.Faults
import SchemaSeed.Proofs.Table.Reading
import SchemaSeed.RowSet

/-! What goes wrong before the destination is asked.  A block that cannot be read and rows
that cannot be generated fail with faults of this program's own, whose text can be written
and none of which ends a run.  A fault that a random source would raise over a choice among
nothing does not arise: an enumeration that was read has members. -/

namespace SchemaSeed

namespace Table

theorem Refusal.ending? {block : Text} {fault : Fault} (refusal : Refusal block fault) :
    fault.ending? = none := by
  cases refusal <;> rfl

/-- Category, length and members of every column of a table that was read fit together. -/
theorem consistent_of_parse {block : Text} {table : Table} (parsed : parse block = .ok table) :
    ∀ column ∈ table.columns, column.Consistent := by
  intro column member
  rcases exists_candidate parsed member with ⟨_, _, _, -, -, -, classified⟩
  exact Column.consistent_of_classify classified

end Table

namespace Generator

open Literal

variable {State : Type u} (generator : Generator State)

theorem ending?_of_copies {count : Nat} {character : Char} {write : Text → Text} {fault : Fault}
    (failed : (copies count character).map write = .error fault) : fault.ending? = none := by
  rcases copies_cases count character with ⟨-, copied⟩ | ⟨-, -, refused⟩ | ⟨-, refused⟩
  · rw [copied] at failed
    cases failed
  · rw [refused] at failed
    cases failed
    rfl
  · rw [refused] at failed
    cases failed
    rfl

theorem ending?_of_character {length : Nat} {state after : State} {fault : Fault}
    (failed : generator.character length state = (.error fault, after)) :
    fault.ending? = none := by
  simp only [character] at failed
  split at failed
  · split at failed
    · cases failed
      rfl
    · cases failed
  · exact ending?_of_copies (congrArg Prod.fst failed)

theorem ending?_of_decimal {length : Nat} {state after : State} {fault : Fault}
    (failed : generator.decimal length state = (.error fault, after)) :
    fault.ending? = none := by
  simp only [decimal] at failed
  split at failed
  · split at failed
    · cases failed
      rfl
    · cases failed
  · exact ending?_of_copies (congrArg Prod.fst failed)

theorem ending?_of_double {length : Nat} {state after : State} {fault : Fault}
    (failed : generator.double length state = (.error fault, after)) : fault.ending? = none := by
  simp only [double] at failed
  split at failed
  · cases failed
    rfl
  · cases failed

theorem ending?_of_generate {column : Column} (consistent : column.Consistent)
    {state after : State} {fault : Fault}
    (failed : generator.generate column state = (.error fault, after)) :
    fault.ending? = none := by
  cases known : column.category with
  | none => simp [generate, known] at failed
  | some category =>
      simp only [generate, known] at failed
      rcases drawn : generator.literal column category state with ⟨result, next⟩
      rw [drawn] at failed
      cases result with
      | ok literal => cases failed
      | error refusal =>
          cases failed
          cases category <;> simp only [Generator.literal] at drawn
          case character => exact generator.ending?_of_character drawn
          case decimal => exact generator.ending?_of_decimal drawn
          case float64 => exact generator.ending?_of_double drawn
          case enumeration =>
            have nonempty := mt consistent.members_eq_nil_iff.mp (not_not_intro known)
            rcases List.exists_cons_of_ne_nil nonempty with ⟨first, rest, members⟩
            rw [enumeration, members] at drawn
            cases drawn
          all_goals cases drawn

theorem ending?_of_row {columns : List Column}
    (consistent : ∀ column ∈ columns, column.Consistent) {state after : State} {fault : Fault}
    (failed : generator.row columns state = (.error fault, after)) : fault.ending? = none := by
  induction columns generalizing state with
  | nil => cases failed
  | cons column rest induction =>
      rw [List.forall_mem_cons] at consistent
      simp only [row] at failed
      rcases drawn : generator.generate column state with ⟨result, next⟩
      simp only [drawn] at failed
      cases result with
      | error refusal =>
          cases failed
          exact generator.ending?_of_generate consistent.1 drawn
      | ok literal =>
          rcases later : generator.row rest next with ⟨result, last⟩
          simp only [later] at failed
          cases result with
          | error refusal =>
              cases failed
              exact induction consistent.2 later
          | ok literals => cases failed

theorem ending?_of_rows {columns : List Column}
    (consistent : ∀ column ∈ columns, column.Consistent) {count : Nat} {state after : State}
    {fault : Fault} (failed : generator.rows columns count state = (.error fault, after)) :
    fault.ending? = none := by
  induction count generalizing state with
  | zero => cases failed
  | succ count induction =>
      simp only [rows] at failed
      rcases drawn : generator.row columns state with ⟨result, next⟩
      simp only [drawn] at failed
      cases result with
      | error refusal =>
          cases failed
          exact generator.ending?_of_row consistent drawn
      | ok first =>
          rcases later : generator.rows columns count next with ⟨result, last⟩
          simp only [later] at failed
          cases result with
          | error refusal =>
              cases failed
              exact induction later
          | ok others => cases failed

theorem ending?_of_rowSet {table : Table} (consistent : ∀ column ∈ table.columns, column.Consistent)
    {count : Nat} {state after : State} {fault : Fault}
    (failed : generator.rowSet table count state = (.error fault, after)) :
    fault.ending? = none := by
  simp only [rowSet] at failed
  rcases drawn : generator.rows table.generated count state with ⟨result, next⟩
  rw [drawn] at failed
  cases result with
  | ok rows => cases failed
  | error refusal =>
      cases failed
      exact generator.ending?_of_rows
        (fun column member => consistent column (List.mem_filter.mp member).1) drawn

end Generator

end SchemaSeed
