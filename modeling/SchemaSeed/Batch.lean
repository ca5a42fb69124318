import SchemaSeed.RowSet

/-! What a destination is handed for one table, and its INSERT statement.  Fields
and literals are untyped values here: rendering refuses all that is not text. -/

namespace SchemaSeed

structure Batch where
  table : Text
  fields : List Datum
  rows : List (List Datum)

/-- Texts with a separator between neighbours; the first value that is no text is
refused with its position. -/
def joinTextsFrom (position : Nat) : List Datum → Except Fault (List Text)
  | [] => .ok []
  | .text value :: rest => (joinTextsFrom (position + 1) rest).map (value :: ·)
  | other :: _ => .error (.notText position other.typeName)

def joinTexts (separator : Text) (values : List Datum) : Except Fault Text :=
  (joinTextsFrom 0 values).map (Text.join separator)

theorem joinTextsFrom_map_text (position : Nat) (texts : List Text) :
    joinTextsFrom position (texts.map Datum.text) = .ok texts := by
  induction texts generalizing position with
  | nil => rfl
  | cons text texts induction => simp [joinTextsFrom, induction, Except.map]

theorem joinTexts_map_text (separator : Text) (texts : List Text) :
    joinTexts separator (texts.map Datum.text) = .ok (Text.join separator texts) := by
  simp [joinTexts, joinTextsFrom_map_text, Except.map]

namespace Batch

def renderRow (row : List Datum) : Except Fault Text :=
  (joinTexts "," row).map fun literals => "(" ++ literals ++ ")"

def renderRows : List (List Datum) → Except Fault (List Text)
  | [] => .ok []
  | row :: rest =>
      match renderRow row with
      | .error fault => .error fault
      | .ok rendered => (renderRows rest).map (rendered :: ·)

/-- One INSERT statement for all rows. -/
def statement (batch : Batch) : Except Fault Text :=
  match renderRows batch.rows with
  | .error fault => .error fault
  | .ok rows =>
      match joinTexts "," batch.fields with
      | .error fault => .error fault
      | .ok fields =>
          .ok ("INSERT INTO `" ++ batch.table ++ "` (" ++ fields ++ ") VALUES " ++
            Text.join "," rows)

end Batch

namespace RowSet

def batch (rowSet : RowSet) : Batch :=
  ⟨rowSet.table, rowSet.fields.map .text, rowSet.rows.map (·.map .text)⟩

end RowSet

end SchemaSeed
