import SchemaSeed.Column.Classify
import SchemaSeed.Log.Record
import SchemaSeed.Sql.Block
import SchemaSeed.Sql.Candidate
import SchemaSeed.Sql.StringLiteral
import SchemaSeed.Table

/-! Reading a table from its block.  Each candidate either declares a plain column
or is skipped: the head, keys and constraints, automatic timestamps, and the
primary key itself.  What stands inside string literals is not looked at, except
for the members of an enumeration. -/

namespace SchemaSeed

/-- A table together with the candidates that gave no column. -/
structure Reading where
  table : Table
  skipped : List Text

namespace Reading

/-- What a declaration says about the primary key: a clause of its own names it,
a column may be marked as it. -/
inductive KeyMention where
  | silent
  | inline (name : Text)
  | clause (name : Text)
deriving Repr, DecidableEq

def keyMention (candidate : Text) : KeyMention :=
  let declaration := Sql.mask candidate
  match Sql.search? Sql.primaryKey? declaration with
  | none => .silent
  | some after =>
      match (Column.splitName declaration).1 with
      | some name => .inline name
      | none =>
          match Sql.firstName? (after.takeWhile (· != ')')) with
          | some name => .clause name
          | none => .silent

/-- The first clause wins, and without one the first marked column. -/
def primaryKeyFrom (inline : Option Text) : List Text → Option Text
  | [] => inline
  | candidate :: rest =>
      match keyMention candidate with
      | .silent => primaryKeyFrom inline rest
      | .inline name => primaryKeyFrom (inline.or (some name)) rest
      | .clause name => some name

/-- Whether a candidate declares a plain column other than the primary key. -/
def isPlainColumn (primaryKey candidate : Text) : Bool :=
  if Sql.occurs Sql.tableMarker? candidate then false
  else
    match Column.splitName candidate with
    | (none, _) => false
    | (some name, declaration) =>
        let masked := Sql.mask declaration
        !Sql.mentionsKey masked && !Sql.mentionsTimestamp masked && name != primaryKey

/-- The columns of the candidates, and the candidates that declare none. -/
def columnsOf (primaryKey : Text) : List Text → Except Fault (List Column × List Text)
  | [] => .ok ([], [])
  | candidate :: rest =>
      if isPlainColumn primaryKey candidate then
        match Column.classify candidate with
        | .error fault => .error fault
        | .ok column =>
            match columnsOf primaryKey rest with
            | .error fault => .error fault
            | .ok (columns, skipped) => .ok (column :: columns, skipped)
      else
        match columnsOf primaryKey rest with
        | .error fault => .error fault
        | .ok (columns, skipped) => .ok (columns, candidate :: skipped)

def ofCandidates : List Text → Except Fault Reading
  | [] => .error .emptyBlock
  | head :: body =>
      match Sql.firstName? head with
      | none => .error (.missingTableName head)
      | some name =>
          match primaryKeyFrom none body with
          | none => .error (.missingPrimaryKey name)
          | some primaryKey =>
              match columnsOf primaryKey (head :: body) with
              | .error fault => .error fault
              | .ok (columns, skipped) => .ok ⟨⟨name, primaryKey, columns⟩, skipped⟩

def ofBlock (block : Text) : Except Fault Reading :=
  match Sql.candidates block with
  | .error fault => .error fault
  | .ok candidates => ofCandidates candidates

def record (reading : Reading) : Log.Record where
  level := Log.Level.debug
  logger := "dbfiller.parsing.table_parser"
  message := "Parsed table " ++ reading.table.name
  extra := [
    ("table", .text reading.table.name),
    ("primary_key", .text reading.table.primaryKey),
    ("columns", .integer reading.table.columns.length),
    ("skipped", .integer reading.skipped.length)]

/-- Reads blocks one after another, up to the first that cannot be read. -/
def upToFault : List Text → List Reading × Option Fault
  | [] => ([], none)
  | block :: rest =>
      match ofBlock block with
      | .error fault => ([], some fault)
      | .ok reading =>
          let (readings, fault) := upToFault rest
          (reading :: readings, fault)

end Reading

namespace Table

/-- Reads the table that a block without comments declares. -/
def parse (block : Text) : Except Fault Table :=
  (Reading.ofBlock block).map (·.table)

/-- Reads all tables of a schema document; the first fault ends the reading. -/
def parseSchema (document : Text) : Except Fault (List Table) :=
  match Reading.upToFault (Sql.segment document) with
  | (readings, none) => .ok (readings.map (·.table))
  | (_, some fault) => .error fault

end Table

namespace Sql.Block

/-- A table without ENGINE clause is worth a note. -/
def record? (block : Block) : Option Log.Record :=
  if block.hasEngine then none
  else some {
    level := Log.Level.debug
    logger := "dbfiller.parsing.segmenter"
    message := "Table block without ENGINE clause"
    extra := [("offset", .integer block.offset)] }

end Sql.Block

end SchemaSeed
