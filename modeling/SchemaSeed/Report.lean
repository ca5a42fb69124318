import SchemaSeed.Fill.Result
import SchemaSeed.Report.Grid
import SchemaSeed.Report.Markup
import SchemaSeed.Table

/-! Reports: the results of a run, and the columns of each table.  They are tables of the
`rich` library as it documents them: cells and titles are written with console markup, and
what is read here is the text that they print where nothing is colored and no column has to
be made narrower. -/

namespace SchemaSeed

namespace Report

def emptyText : Text := "No tables found in schema.\n"

def readAll : List Text → Except Fault (List Marked)
  | [] => .ok []
  | cell :: rest =>
      match Markup.read cell with
      | .error fault => .error fault
      | .ok marked => (readAll rest).map (marked :: ·)

def readRows : List (List Text) → Except Fault (List (List Marked))
  | [] => .ok []
  | row :: rest =>
      match readAll row with
      | .error fault => .error fault
      | .ok marked => (readRows rest).map (marked :: ·)

/-- The stretches of texts as they show, line by line. -/
def stretches (texts : List Marked) : List Stretch :=
  texts.flatMap fun text => text.lines.flatMap fun line => line.expandTabs.stretches

/-- The cells of rows, one column after another. -/
def cellsByColumn (columnCount : Nat) (rows : List (List Text)) : List Text :=
  (List.range columnCount).flatMap fun index => rows.filterMap (·[index]?)

/-- A table whose title and cells are written with markup.  Columns are read one after
another and then the title; after that the styles of title and rows are looked at.  The
order matters only where several are faulty. -/
def grid (title : Text) (caption : Option Text) (columns : List Grid.Column)
    (rows : List (List Text)) : Except Fault Text :=
  match readAll (cellsByColumn columns.length rows), readRows rows, Markup.read title with
  | .error fault, _, _ => .error fault
  | _, .error fault, _ => .error fault
  | _, _, .error fault => .error fault
  | .ok _, .ok rows, .ok title =>
      (Marked.checkStyles (stretches (title :: rows.flatten))).map fun _ =>
        Grid.render (some title) (caption.map fun caption => ⟨caption, []⟩) columns rows

def resultColumns : List Grid.Column := [
  ⟨"Table", .left⟩, ⟨"Rows", .right⟩, ⟨"Mode", .left⟩, ⟨"Status", .left⟩,
  ⟨"Generation (s)", .right⟩, ⟨"Insert (s)", .right⟩]

/-- A whole number in the form of its cell. -/
def number (form : Int → Text) (value : Int) : Except Fault Text :=
  if Decimal.isTooLong value then .error .numberTooLong else .ok (form value)

def resultRow (result : TableResult) : Except Fault (List Text) := do
  let written ← number Decimal.grouped result.written
  let requested ← number Decimal.grouped result.requested
  return [
    result.table,
    written ++ "/" ++ requested,
    result.mode,
    if result.success then "ok" else "failed",
    Decimal.fixed 6 result.generationSeconds,
    Decimal.fixed 6 result.insertSeconds]

def results (results : List TableResult) : Except Fault Text :=
  if results.isEmpty then .ok emptyText
  else
    let failed := (results.filter (!·.success)).length
    (results.mapM resultRow).bind fun rows =>
      grid "Database Filler Results"
        (some (Decimal.natural (results.length - failed) ++ " filled, " ++
          Decimal.natural failed ++ " failed"))
        resultColumns rows

def modelColumns : List Grid.Column := [
  ⟨"Column", .left⟩, ⟨"Category", .left⟩, ⟨"Length", .right⟩, ⟨"Unsigned", .center⟩,
  ⟨"Values", .left⟩]

def modelRow (column : Column) : Except Fault (List Text) := do
  let length ← match column.length with
    | some length => number Decimal.integer length
    | none => .ok []
  return [
    column.name,
    match column.category with
      | some category => category.name
      | none => "unsupported",
    length,
    if column.unsigned then "yes" else [],
    Text.join ", " column.members]

def model (table : Table) : Except Fault Text :=
  (table.columns.mapM modelRow).bind fun rows =>
    grid (table.name ++ " (primary key: " ++ table.primaryKey ++ ")") none modelColumns rows

/-- The reports of all tables up to the first that cannot be shown. -/
def modelsFrom : List Table → Text × Option Fault
  | [] => ([], none)
  | table :: rest =>
      match model table with
      | .error fault => ([], some fault)
      | .ok text =>
          let (later, fault) := modelsFrom rest
          (text ++ later, fault)

def models (tables : List Table) : Text × Option Fault :=
  if tables.isEmpty then (emptyText, none) else modelsFrom tables

end Report

end SchemaSeed
