import Mathlib.Data.List.Forall2
import SchemaSeed.Proofs.Lists
import SchemaSeed.Proofs.Sql.Names
import SchemaSeed.Table.Reading

/-! What is known of a table that was read: where its name stands, and that its columns are
those of the candidates that declare plain columns, one for each and in their order. -/

namespace SchemaSeed

namespace Column

theorem name_of_classify {definition : Text} {column : Column}
    (classified : classify definition = .ok column) :
    column.name = (splitName definition).1.getD [] := by
  simp only [classify] at classified
  split at classified
  · cases classified
    rfl
  · simp only [ofCategory] at classified
    split at classified
    · cases classified
      rfl
    · split at classified
      · cases classified
      · split at classified
        · split at classified <;> cases classified <;> rfl
        · cases classified
          rfl
        · cases classified
          rfl

end Column

namespace Reading

/-- A candidate gives a column in front of the others, or it is skipped. -/
theorem columnsOf_cons_eq_ok {primaryKey candidate : Text} {rest skipped : List Text}
    {columns : List Column}
    (read : columnsOf primaryKey (candidate :: rest) = .ok (columns, skipped)) :
    ∃ others skippedOthers, columnsOf primaryKey rest = .ok (others, skippedOthers) ∧
      ((isPlainColumn primaryKey candidate = true ∧ skipped = skippedOthers ∧
          ∃ column, Column.classify candidate = .ok column ∧ columns = column :: others) ∨
        (isPlainColumn primaryKey candidate = false ∧ skipped = candidate :: skippedOthers ∧
          columns = others)) := by
  rw [columnsOf] at read
  cases plain : isPlainColumn primaryKey candidate with
  | true =>
      simp only [plain, if_true] at read
      cases classified : Column.classify candidate with
      | error fault => simp [classified] at read
      | ok column =>
          cases later : columnsOf primaryKey rest with
          | error fault => simp [classified, later] at read
          | ok found =>
              simp only [classified, later] at read
              cases read
              exact ⟨found.1, found.2, rfl, .inl ⟨rfl, rfl, column, rfl, rfl⟩⟩
  | false =>
      simp only [plain, Bool.false_eq_true, if_false] at read
      cases later : columnsOf primaryKey rest with
      | error fault => simp [later] at read
      | ok found =>
          simp only [later] at read
          cases read
          exact ⟨found.1, found.2, rfl, .inr ⟨rfl, rfl, rfl⟩⟩

theorem columnsOf_eq_ok {primaryKey : Text} {candidates skipped : List Text}
    {columns : List Column} (read : columnsOf primaryKey candidates = .ok (columns, skipped)) :
    List.Forall₂ (fun candidate column => Column.classify candidate = .ok column)
      (candidates.filter (isPlainColumn primaryKey)) columns := by
  induction candidates generalizing columns skipped with
  | nil =>
      cases read
      exact .nil
  | cons candidate rest induction =>
      rcases columnsOf_cons_eq_ok read with
        ⟨others, skippedOthers, later, ⟨plain, -, column, classified, rfl⟩ | ⟨plain, -, rfl⟩⟩
      · rw [List.filter_cons_of_pos plain]
        exact .cons classified (induction later)
      · rw [List.filter_cons_of_neg (by simp [plain])]
        exact induction later

end Reading

namespace Table

theorem parse_eq_ok_of_toOption {block : Text} {table : Table}
    (read : (parse block).toOption = some table) : parse block = .ok table := by
  cases outcome : parse block with
  | error fault => simp [outcome, Except.toOption] at read
  | ok found => simpa [outcome, Except.toOption] using read

/-- A table is read from a head that bears its name, from a body that settles its key and
from its plain columns. -/
theorem parse_eq_ok {block : Text} {table : Table} (parsed : parse block = .ok table) :
    ∃ head body, Sql.candidates block = .ok (head :: body) ∧
      Sql.firstName? head = some table.name ∧
      Reading.primaryKeyFrom none body = some table.primaryKey ∧
      List.Forall₂ (fun candidate column => Column.classify candidate = .ok column)
        ((head :: body).filter (Reading.isPlainColumn table.primaryKey)) table.columns := by
  rw [parse, Reading.ofBlock] at parsed
  cases found : Sql.candidates block with
  | error fault => simp [found, Except.map] at parsed
  | ok candidates =>
      cases candidates with
      | nil => simp [found, Reading.ofCandidates, Except.map] at parsed
      | cons head body =>
          simp only [found, Reading.ofCandidates] at parsed
          cases name : Sql.firstName? head with
          | none => simp [name, Except.map] at parsed
          | some name =>
              cases key : Reading.primaryKeyFrom none body with
              | none => simp [name, key, Except.map] at parsed
              | some primaryKey =>
                  cases read : Reading.columnsOf primaryKey (head :: body) with
                  | error fault => simp [name, key, read, Except.map] at parsed
                  | ok columns =>
                      simp only [name, key, read, Except.map, Except.ok.injEq] at parsed
                      cases parsed
                      exact ⟨head, body, rfl, name, key, Reading.columnsOf_eq_ok read⟩

/-- Every column has a candidate that declares it under its name. -/
theorem exists_candidate {block : Text} {table : Table} (parsed : parse block = .ok table)
    {column : Column} (member : column ∈ table.columns) :
    ∃ candidates candidate declaration, Sql.candidates block = .ok candidates ∧
      candidate ∈ candidates ∧ Column.splitName candidate = (some column.name, declaration) ∧
      Column.classify candidate = .ok column := by
  rcases parse_eq_ok parsed with ⟨head, body, found, -, -, classified⟩
  rcases exists_of_mem_right classified member with ⟨candidate, among, read⟩
  rcases List.mem_filter.mp among with ⟨among, plain⟩
  rcases split : Column.splitName candidate with ⟨name, declaration⟩
  have named := Column.name_of_classify read
  rw [split] at named
  cases name with
  | none => simp [Reading.isPlainColumn, split] at plain
  | some name =>
      exact ⟨head :: body, candidate, declaration, found, among, by rw [split, named]; rfl, read⟩

/-- Tables and their columns have names that can be quoted. -/
theorem names_of_parse {block : Text} {table : Table} (parsed : parse block = .ok table) :
    (table.name ≠ [] ∧ ∀ character ∈ table.name, Sql.isNameCharacter character = true) ∧
      ∀ column ∈ table.columns, column.name ≠ [] ∧
        ∀ character ∈ column.name, Sql.isNameCharacter character = true := by
  rcases parse_eq_ok parsed with ⟨head, body, -, name, -, -⟩
  refine ⟨Sql.firstName?_eq_some name, ?_⟩
  intro column member
  rcases exists_candidate parsed member with ⟨_, candidate, _, -, -, split, -⟩
  simp only [Column.splitName] at split
  split at split
  · rename_i quoted
    rw [Prod.mk.injEq, Option.some.injEq] at split
    rw [← split.1]
    exact ⟨(Sql.quotedName?_eq_some quoted).1, (Sql.quotedName?_eq_some quoted).2.1⟩
  · cases split

end Table

end SchemaSeed
