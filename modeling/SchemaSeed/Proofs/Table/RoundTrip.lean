import SchemaSeed.Proofs.Table.Candidates
import SchemaSeed.Proofs.Table.Statement

/-! Declarations are read back.  A document that is put together from declarations gives
exactly the tables that they stand for, in their order. -/

namespace SchemaSeed

namespace Reading

theorem primaryKeyFrom_append {part : List Text}
    (silent : ∀ candidate ∈ part, keyMention candidate = .silent) (inline : Option Text)
    (rest : List Text) : primaryKeyFrom inline (part ++ rest) = primaryKeyFrom inline rest := by
  induction part with
  | nil => rfl
  | cons candidate part induction =>
      have first := silent candidate List.mem_cons_self
      rw [List.cons_append, primaryKeyFrom, first]
      apply induction
      intro later member
      exact silent later (List.mem_cons_of_mem _ member)

theorem columnsOf_skipped {primaryKey candidate : Text} {rest : List Text} {columns : List Column}
    (noColumn : isPlainColumn primaryKey candidate = false)
    (read : ∃ skipped, columnsOf primaryKey rest = .ok (columns, skipped)) :
    ∃ skipped, columnsOf primaryKey (candidate :: rest) = .ok (columns, skipped) := by
  rcases read with ⟨skipped, read⟩
  exact ⟨candidate :: skipped, by
    simp only [columnsOf, noColumn, Bool.false_eq_true, if_false, read]⟩

theorem columnsOf_plain {primaryKey candidate : Text} {rest : List Text} {column : Column}
    {columns : List Column} (plain : isPlainColumn primaryKey candidate = true)
    (classified : Column.classify candidate = .ok column)
    (read : ∃ skipped, columnsOf primaryKey rest = .ok (columns, skipped)) :
    ∃ skipped, columnsOf primaryKey (candidate :: rest) = .ok (column :: columns, skipped) := by
  rcases read with ⟨skipped, read⟩
  exact ⟨skipped, by simp only [columnsOf, plain, if_true, classified, read]⟩

end Reading

namespace Declaration

variable (declaration : Declaration)

theorem firstName_head : Sql.firstName? declaration.head = some declaration.name.text := by
  have plain : ∀ character ∈ "CREATE TABLE ".toList, character ≠ Sql.backtick := by decide
  exact Sql.firstName?_append plain declaration.name.nonempty declaration.name.known []

theorem primaryKeyFrom_items :
    Reading.primaryKeyFrom none declaration.items = some declaration.primaryKey.text := by
  have silent : ∀ candidate ∈ declaration.keyField :: declaration.fields.map (·.text),
      Reading.keyMention candidate = .silent := by
    intro candidate member
    rcases List.mem_cons.mp member with rfl | inFields
    · exact declaration.keyMention_keyField
    · rcases List.mem_map.mp inFields with ⟨field, -, rfl⟩
      exact field.keyMention
  have clause : Reading.primaryKeyFrom none [declaration.keyClause] =
      some declaration.primaryKey.text := by
    rw [Reading.primaryKeyFrom, declaration.keyMention_keyClause]
  rw [← clause]
  exact Reading.primaryKeyFrom_append silent none [declaration.keyClause]

theorem columnsOf_fields {primaryKey clause : Text} {fields : List Field}
    (distinct : ∀ field ∈ fields, field.name.text ≠ primaryKey)
    (noColumn : Reading.isPlainColumn primaryKey clause = false) :
    ∃ skipped, Reading.columnsOf primaryKey (fields.map (·.text) ++ [clause]) =
      .ok (fields.map (·.column), skipped) := by
  induction fields with
  | nil => exact Reading.columnsOf_skipped noColumn ⟨[], rfl⟩
  | cons field fields induction =>
      exact Reading.columnsOf_plain (Field.isPlainColumn (distinct field List.mem_cons_self))
        field.classify
        (induction fun later member => distinct later (List.mem_cons_of_mem _ member))

theorem columnsOf_candidates :
    ∃ skipped, Reading.columnsOf declaration.primaryKey.text
        (declaration.head :: declaration.items) =
      .ok (declaration.fields.map (·.column), skipped) := by
  have noHead : Reading.isPlainColumn declaration.primaryKey.text declaration.head = false :=
    Reading.isPlainColumn_eq_false_of_head (by decide) (by decide) _ _
  have noClause : Reading.isPlainColumn declaration.primaryKey.text declaration.keyClause =
      false := Reading.isPlainColumn_eq_false_of_head (by decide) (by decide) _ _
  exact Reading.columnsOf_skipped noHead (Reading.columnsOf_skipped
    declaration.isPlainColumn_keyField (columnsOf_fields declaration.distinct noClause))

/-- A statement is read as the table that it declares. -/
theorem ofBlock_statement :
    ∃ skipped, Reading.ofBlock declaration.statement = .ok ⟨declaration.table, skipped⟩ := by
  rcases declaration.columnsOf_candidates with ⟨skipped, read⟩
  refine ⟨skipped, ?_⟩
  rw [Reading.ofBlock, declaration.candidates_statement]
  simp only [Reading.ofCandidates, declaration.firstName_head, declaration.primaryKeyFrom_items,
    read]
  rfl

theorem parseSchema_text : Table.parseSchema declaration.text = .ok [declaration.table] := by
  rcases declaration.ofBlock_statement with ⟨skipped, read⟩
  rw [Table.parseSchema, declaration.segment_text]
  simp only [Reading.upToFault, read]
  rfl

/-- Whatever tables are declared, one after the other, reading the document gives exactly
them: their names, their primary keys and all their other columns with category, length,
sign and members, everything in the order of its declaration. -/
theorem parseSchema_declarations (declarations : List Declaration) :
    Table.parseSchema (declarations.flatMap (·.text)) =
      .ok (declarations.map (·.table)) := by
  induction declarations with
  | nil => rfl
  | cons declaration rest induction =>
      cases rest with
      | nil => simpa using declaration.parseSchema_text
      | cons second rest =>
          have marked : (Sql.tableMarker? ((second :: rest).flatMap (·.text))).isSome = true :=
            second.marked_text _
          rw [List.flatMap_cons, Table.parseSchema_append marked, declaration.parseSchema_text,
            induction]
          rfl

set_option maxRecDepth 8000 in
example :
    text {
      name := ⟨"t", by decide, by decide⟩
      primaryKey := ⟨"id", by decide, by decide⟩
      fields := [
        ⟨⟨"unit--key", by decide, by decide⟩,
          .typed ⟨"INT", .int32, by decide, by decide⟩ (some ⟨1, 7, by decide⟩) true⟩,
        ⟨⟨"kind", by decide, by decide⟩,
          .enumeration ⟨"a, (b", by decide, by decide, rfl, rfl, rfl⟩ []⟩]
      distinct := by decide } =
    "CREATE TABLE `t` (`id` INT NOT NULL, `unit--key` INT(07) UNSIGNED NOT NULL, ".toList ++
      "`kind` ENUM('a, (b') NOT NULL, PRIMARY KEY (`id`)) ENGINE=InnoDB;".toList := by
  decide

end Declaration

end SchemaSeed
