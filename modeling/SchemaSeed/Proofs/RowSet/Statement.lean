import SchemaSeed.Batch
import SchemaSeed.Sql.Scan

/-! The statement of generated rows.  All that is generated is text, so their statement
can always be written. -/

namespace SchemaSeed

namespace RowSet

/-- Items in parentheses. -/
def group (items : List Text) : Text :=
  '(' :: Text.join "," items ++ [')']

/-- What stands before the names of the fields. -/
def lead (table : Text) : Text :=
  "INSERT INTO ".toList ++ (Sql.backtick :: table ++ [Sql.backtick]) ++ [' ']

def values (rows : List (List Text)) : Text :=
  Text.join "," (rows.map group)

def statement (rowSet : RowSet) : Text :=
  lead rowSet.table ++ (group rowSet.fields ++ (" VALUES ".toList ++ values rowSet.rows))

theorem renderRow_map (row : List Text) :
    Batch.renderRow (row.map Datum.text) = .ok (group row) := by
  rw [Batch.renderRow, joinTexts_map_text]
  rfl

theorem renderRows_map (rows : List (List Text)) :
    Batch.renderRows (rows.map (·.map Datum.text)) = .ok (rows.map group) := by
  induction rows with
  | nil => rfl
  | cons row rest induction =>
      rw [List.map_cons, Batch.renderRows, renderRow_map, induction]
      rfl

theorem statement_batch (rowSet : RowSet) : rowSet.batch.statement = .ok rowSet.statement := by
  have opening : "INSERT INTO `".toList = "INSERT INTO ".toList ++ [Sql.backtick] := rfl
  have fields : "` (".toList = [Sql.backtick, ' ', '('] := rfl
  have between : ") VALUES ".toList = ')' :: " VALUES ".toList := rfl
  rw [Batch.statement, batch, renderRows_map, joinTexts_map_text]
  unfold statement lead values
  rw [opening, fields, between]
  generalize "INSERT INTO ".toList = front
  generalize " VALUES ".toList = keyword
  simp [group]

end RowSet

end SchemaSeed
