import SchemaSeed.Destination

/-! A destination that writes nowhere.  Its detail shows the fields, every row and
the statement, one line each, and the statements are kept. -/

namespace SchemaSeed

namespace DryRun

/-- The statements so far, in order. -/
abbrev Statements := List Text

def rowLinesFrom (number : Nat) : List Text → List Text
  | [] => []
  | row :: rest =>
      ("row " ++ Decimal.natural number ++ ": " ++ row) :: rowLinesFrom (number + 1) rest

def detail (fields : Text) (rows : List Text) (statement : Text) : Text :=
  Text.join "\n" (("fields: [" ++ fields ++ "]") :: rowLinesFrom 1 rows ++ [statement])

def outcome (batch : Batch) : Except Fault (Outcome × Text) :=
  match batch.statement, joinTexts ", " batch.fields, Batch.renderRows batch.rows with
  | .ok statement, .ok fields, .ok rows => .ok (⟨true, detail fields rows statement⟩, statement)
  | .error fault, _, _ => .error fault
  | _, .error fault, _ => .error fault
  | _, _, .error fault => .error fault

def destination : Destination Statements where
  name := "dry_run"
  deliver batch statements :=
    match outcome batch with
    | .ok (outcome, statement) => (⟨.ok outcome, []⟩, statements ++ [statement])
    | .error fault => (⟨.error fault, []⟩, statements)

end DryRun

end SchemaSeed
