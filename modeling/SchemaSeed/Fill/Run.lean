import SchemaSeed.Clock
import SchemaSeed.Destination
import SchemaSeed.Diagnostics
import SchemaSeed.Fill.Result
import SchemaSeed.Table.Reading

/-! A run over a schema document.  The tables are taken one after another: each is
read, its rows are generated, and they are handed to the destination once.  What
goes wrong with one table is recorded in its result and the run goes on; only a
destination that cannot be reached at all ends it, or a fault whose text cannot be
written. -/

namespace SchemaSeed

/-- What a run works with. -/
structure Filler (Sink : Type u) (Random : Type v) where
  generator : Generator Random
  destination : Destination Sink
  /-- Whether a column of unsupported type fails its table. -/
  strict : Bool

namespace Filler

/-- What a run changes.  `delivered` holds the row sets that were handed to the
destination, in order. -/
structure State (Sink : Type u) (Random : Type v) where
  sink : Sink
  random : Random
  clock : Clock
  diagnostics : Diagnostics
  records : List Log.Record
  delivered : List RowSet

namespace State

variable {Sink : Type u} {Random : Type v}

def start (sink : Sink) (random : Random) (clock : Clock) : State Sink Random :=
  ⟨sink, random, clock, [], [], []⟩

def log (record : Log.Record) (state : State Sink Random) : State Sink Random :=
  { state with records := state.records ++ [record] }

def logAll (records : List Log.Record) (state : State Sink Random) : State Sink Random :=
  { state with records := state.records ++ records }

def say (level : Log.Level) (message : Text) (state : State Sink Random) : State Sink Random :=
  { state with
    diagnostics := state.diagnostics.add message
    records := state.records ++ [Diagnostics.record message level] }

def tell (message : Text) (state : State Sink Random) : State Sink Random :=
  state.say Log.Level.debug message

def warn (message : Text) (state : State Sink Random) : State Sink Random :=
  state.say Log.Level.warning message

def readClock (state : State Sink Random) : Float × State Sink Random :=
  let (reading, clock) := state.clock.read
  (reading, { state with clock })

end State

variable {Sink : Type u} {Random : Type v} (filler : Filler Sink Random)

def policy : Policy := filler.generator.policy

def record (level : Log.Level) (message : Text) (extra : List (Text × Datum))
    (fault : Option Fault) : Log.Record :=
  ⟨level, "dbfiller.filler", message, extra, fault⟩

/-- A table with unsupported columns fails, or the columns are left out with a
warning. -/
def checkColumns (table : Table) (state : State Sink Random) :
    Except Fault Unit × State Sink Random :=
  match table.unsupported.map (·.name) with
  | [] => (.ok (), state)
  | names =>
      if filler.strict then (.error (.unsupportedColumns table.name names), state)
      else
        (.ok (), state.warn ("table " ++ table.name ++ ": no generator for column(s) " ++
          Text.join ", " names ++ "; left to their database defaults"))

/-- What is known about a table before it is handed over: its name, once it was
read, and its rows or what went wrong. -/
structure Preparation where
  name : Option Text
  rowSet : Except Fault RowSet

def prepare (block : Text) (state : State Sink Random) : Preparation × State Sink Random :=
  match Reading.ofBlock block with
  | .error fault => (⟨none, .error fault⟩, state)
  | .ok reading =>
      match filler.checkColumns reading.table (state.log reading.record) with
      | (.error fault, state) => (⟨some reading.table.name, .error fault⟩, state)
      | (.ok _, state) =>
          let (rowSet, random) :=
            filler.generator.rowSet reading.table filler.policy.rowCount state.random
          (⟨some reading.table.name, rowSet⟩, { state with random })

/-- What a fault that kept a table from being filled comes to: the result of the table, or
the end of the run.  A fault may know the name of its table better.  It is logged before its
text is asked for. -/
def fail (name : Text) (generationSeconds : Float) (fault : Fault) (state : State Sink Random) :
    Except Fault TableResult × State Sink Random :=
  if fault.isUnreachableDestination then (.error fault, state)
  else
    let name := fault.table?.getD name
    let state := state.log (record Log.Level.error ("[TABLE FAILED] " ++ name)
      [("table", .text name)] (some fault))
    match fault.text with
    | .error refusal => (.error refusal, state)
    | .ok text =>
        (.ok ⟨name, filler.policy.rowCount, 0, filler.policy.mode, false, generationSeconds, 0,
          some text⟩, state.warn ("table " ++ name ++ " failed: " ++ text))

/-- The result of a table that the destination answered for. -/
def conclude (name : Text) (generationSeconds : Float) (insertion : Timing) (outcome : Outcome)
    (state : State Sink Random) : TableResult × State Sink Random :=
  let rowCount := Decimal.natural filler.policy.rowCount
  let amount := rowCount ++ " rows of " ++ filler.policy.mode ++ " data to table " ++ name
  let state :=
    if outcome.success then
      (state.tell ("added " ++ amount)).log (record Log.Level.info ("[TABLE SUCCESS] " ++ name)
        [("table", .text name), ("rows", .integer filler.policy.rowCount)] none)
    else
      (state.warn ("there were ERRORS attempting to add " ++ amount)).log
        (record Log.Level.warning ("[TABLE FAILED] " ++ name) [("table", .text name)] none)
  let state := if outcome.detail.isEmpty then state else state.tell outcome.detail
  let state := state.tell (filler.destination.name ++ " insertion: " ++ insertion.text)
  (⟨name, filler.policy.rowCount, if outcome.success then filler.policy.rowCount else 0,
    filler.policy.mode, outcome.success, generationSeconds, insertion.duration,
    if outcome.success then none else some outcome.detail⟩, state)

/-- Hands a row set over. -/
def deliver (rowSet : RowSet) (state : State Sink Random) :
    Except Fault Outcome × State Sink Random :=
  let (delivery, sink) := filler.destination.deliver rowSet.batch state.sink
  (delivery.outcome,
    { state.logAll delivery.records with sink, delivered := state.delivered ++ [rowSet] })

/-- Fills the table of one block.  `number` counts the blocks from one. -/
def fillTable (number : Nat) (block : Text) (state : State Sink Random) :
    Except Fault TableResult × State Sink Random :=
  let placeholder := "#" ++ Decimal.natural number
  let state := state.log (record Log.Level.info ("[TABLE START] " ++ placeholder)
    [("iteration", .integer number)] none)
  let (started, state) := state.readClock
  let (preparation, state) := filler.prepare block state
  let (ended, state) := state.readClock
  let generation : Timing := ⟨started, ended⟩
  let name := preparation.name.getD placeholder
  match preparation.rowSet with
  | .error fault => filler.fail name 0 fault state
  | .ok rowSet =>
      let state := state.tell ("table " ++ name ++ " iteration " ++ Decimal.natural number ++
        " :: " ++ generation.text)
      let (started, state) := state.readClock
      let (outcome, state) := filler.deliver rowSet state
      let (ended, state) := state.readClock
      match outcome with
      | .error fault => filler.fail name generation.duration fault state
      | .ok outcome =>
          let (result, state) :=
            filler.conclude name generation.duration ⟨started, ended⟩ outcome state
          (.ok result, state)

def fillTables (number : Nat) : List Text → State Sink Random →
    Except Fault (List TableResult) × State Sink Random
  | [], state => (.ok [], state)
  | block :: rest, state =>
      match filler.fillTable number block state with
      | (.error fault, state) => (.error fault, state)
      | (.ok result, state) =>
          match fillTables (number + 1) rest state with
          | (.error fault, state) => (.error fault, state)
          | (.ok results, state) => (.ok (result :: results), state)

def announce (count : Nat) : Log.Record :=
  record Log.Level.info ("[FILL START] " ++ Decimal.natural count ++ " table(s)")
    [("tables", .integer count), ("rows", .integer filler.policy.rowCount),
      ("mode", .text filler.policy.mode)] none

def summarize (results : List TableResult) : Log.Record :=
  let failed := (results.filter (!·.success)).length
  let count := Decimal.natural results.length
  record Log.Level.info ("[FILL COMPLETE] " ++ Decimal.natural (results.length - failed) ++ "/" ++
    count ++ " table(s) filled")
    [("tables", .integer results.length), ("failed", .integer failed)] none

/-- Fills every table of a document, in its order. -/
def run (document : Text) (state : State Sink Random) :
    Except Fault (List TableResult) × State Sink Random :=
  let blocks := Sql.blocks document
  let state := state.logAll (blocks.filterMap (·.record?))
  let state := state.log (filler.announce blocks.length)
  match filler.fillTables 1 (blocks.map (·.declaration)) state with
  | (.error fault, state) => (.error fault, state)
  | (.ok results, state) => (.ok results, state.log (summarize results))

end Filler

end SchemaSeed
