import SchemaSeed.Literal
import SchemaSeed.Table

/-! The rows generated for one table: a literal for every supported column, in
declaration order. -/

namespace SchemaSeed

structure RowSet where
  table : Text
  fields : List Text
  rows : List (List Text)
deriving Repr, DecidableEq

namespace Generator

variable {State : Type u} (generator : Generator State)

/-- One literal per supported column; a column of unsupported type gives none. -/
def row : List Column → State → Except Fault (List Text) × State
  | [], state => (.ok [], state)
  | column :: rest, state =>
      match generator.generate column state with
      | (.error fault, state) => (.error fault, state)
      | (.ok literal, state) =>
          match row rest state with
          | (.error fault, state) => (.error fault, state)
          | (.ok literals, state) => (.ok (literal.toList ++ literals), state)

def rows (columns : List Column) : Nat → State → Except Fault (List (List Text)) × State
  | 0, state => (.ok [], state)
  | count + 1, state =>
      match generator.row columns state with
      | (.error fault, state) => (.error fault, state)
      | (.ok first, state) =>
          match rows columns count state with
          | (.error fault, state) => (.error fault, state)
          | (.ok others, state) => (.ok (first :: others), state)

/-- The row set of a table, with that many rows. -/
def rowSet (table : Table) (count : Nat) (state : State) : Except Fault RowSet × State :=
  match generator.rows table.generated count state with
  | (.error fault, state) => (.error fault, state)
  | (.ok rows, state) => (.ok ⟨table.name, table.generated.map (·.quotedName), rows⟩, state)

end Generator

end SchemaSeed
