import SchemaSeed.Command.Arguments
import SchemaSeed.Database.Insert
import SchemaSeed.Destination.DryRun
import SchemaSeed.Fill.Run
import SchemaSeed.Log.Session
import SchemaSeed.Random.Origin
import SchemaSeed.Report
import SchemaSeed.Schema
import SchemaSeed.Settings
import SchemaSeed.Text.Terminal

/-! The commands: showing the settings, showing the tables of a schema, and filling a
database.  A command is a function of what it finds around it, and answers what it
prints, its exit status, and what it did to the database. -/

namespace SchemaSeed

namespace Command

/-- What a command finds around it. -/
structure World (State : Type u) where
  file : Text → Option (List UInt8)
  environment : List (Text × Text)
  clock : Clock
  instant : Instant
  /-- The time that log lines show. -/
  logTime : Text
  /-- A generator that nobody can foresee, for runs without a seed. -/
  unforeseen : Twister
  server : Database.Server State
  database : State

/-- What a command leaves.  A fault that no command deals with ends it at once. -/
structure Effect (State : Type u) where
  status : Nat
  output : Text
  errors : Text
  escaped : Option Fault
  session : Database.Session State
  /-- Everything that was logged, whether or not it was shown. -/
  records : List Log.Record

def usageStatus : Nat := 2

def usage : Text := "Usage: schemaseed [info | inspect SCHEMA | fill [SCHEMA] OPTIONS]"

namespace Effect

variable {State : Type u}

def start (world : World State) : Effect State :=
  ⟨0, [], [], none, Database.Session.start world.database, []⟩

def print (text : Text) (effect : Effect State) : Effect State :=
  { effect with output := effect.output ++ text }

def printLine (text : Text) (effect : Effect State) : Effect State :=
  effect.print (Terminal.plain text ++ "\n")

def complain (text : Text) (effect : Effect State) : Effect State :=
  { effect with errors := effect.errors ++ text }

def complainLine (text : Text) (effect : Effect State) : Effect State :=
  effect.complain (Terminal.plain text ++ "\n")

def log (records : List Log.Record) (effect : Effect State) : Effect State :=
  { effect with records := effect.records ++ records }

def exit (status : Nat) (effect : Effect State) : Effect State :=
  { effect with status }

def escape (fault : Fault) (effect : Effect State) : Effect State :=
  { effect with status := 1, escaped := some fault }

/-- A fault of the program's own making is reported in one line, if it has a text. -/
def report (fault : Fault) (effect : Effect State) : Effect State :=
  match fault.text with
  | .ok text => (effect.complainLine text).exit 1
  | .error refusal => effect.escape refusal

end Effect

variable {State : Type u} (world : World State)

def settingsFile : Text := ".env"

/-- The text of the file of settings, empty where there is no file. -/
def settingsText : Except Fault Text :=
  match world.file settingsFile with
  | none => .ok []
  | some content => Schema.read settingsFile (some content)

/-- The settings from the environment and the file of settings. -/
def settings : Except Fault Settings :=
  match settingsText world with
  | .error fault => .error fault
  | .ok text =>
      Fault.ofComplaints Settings.modelName
        (Settings.ofSources {
          environment := world.environment
          file := Dotenv.read world.environment text })

/-- The start of a command that needs settings: lines of the file that cannot be read
are named first. -/
def startWithSettings : Effect State :=
  match settingsText world with
  | .error _ => Effect.start world
  | .ok text =>
      (Dotenv.complaints text).foldl (fun effect complaint => effect.complainLine complaint)
        (Effect.start world)

def readSchema (path : Text) : Except Fault Text :=
  Schema.read path (world.file (Path.normalize path))

def infoLine (settings : Settings) : Text :=
  let shown (value : Datum) : Text := value.plain
  "DB=" ++ settings.user ++ "@" ++ settings.host ++ ":" ++ Decimal.integer settings.port ++ "/" ++
    settings.database ++ " (" ++ settings.charset ++ ") | schema=" ++
    shown ((settings.schemaFile.map Datum.text).getD .null) ++
    " rows=" ++ Decimal.integer settings.rowCount ++
    " random=" ++ shown (.truth settings.randomized) ++
    " chars=" ++ Decimal.integer settings.low ++ "-" ++ Decimal.integer settings.high ++
    " debug=" ++ shown (.truth settings.dryRun)

def info : Effect State :=
  let effect := startWithSettings world
  match settings world with
  | .error fault => effect.escape fault
  | .ok settings => effect.printLine (infoLine settings)

/-- Reads the tables one by one and notes those that cannot be read. -/
def inspectBlocks (tables : List Table) : List Text → Effect State → List Table × Effect State
  | [], effect => (tables.reverse, effect)
  | block :: rest, effect =>
      match Reading.ofBlock block with
      | .ok reading =>
          inspectBlocks (reading.table :: tables) rest (effect.log [reading.record])
      | .error fault =>
          if fault.isUnreadableTable then
            inspectBlocks tables rest (effect.complainLine ("skipped table: " ++ fault.message))
          else (tables.reverse, effect.escape fault)

def inspect (schema : Text) : Effect State :=
  let effect := Effect.start world
  match readSchema world (Path.normalize schema) with
  | .error (.schemaFileMissing path) => effect.report (.schemaFileMissing path)
  | .error fault => effect.escape fault
  | .ok document =>
      let blocks := Sql.blocks document
      let (tables, effect) := inspectBlocks [] (blocks.map (·.declaration))
        (effect.log (blocks.filterMap (·.record?)))
      if effect.escaped.isSome then effect
      else
        let (text, fault) := Report.models tables
        match fault with
        | some fault => (effect.print text).escape fault
        | none => effect.print text

namespace Overrides

def apply (overrides : Overrides) (schema : Option Text) (settings : Settings) : Settings :=
  { settings with
    schemaFile := (schema.map Path.normalize).or settings.schemaFile
    rowCount := overrides.rowCount.getD settings.rowCount
    randomized := overrides.randomized.getD settings.randomized
    low := overrides.low.getD settings.low
    high := overrides.high.getD settings.high
    seed := overrides.seed.or settings.seed
    dryRun := overrides.dryRun.getD settings.dryRun
    strict := overrides.strict.getD settings.strict
    jsonLogs := overrides.jsonLogs.getD settings.jsonLogs }

end Overrides

def random (settings : Settings) : Twister :=
  (Random.Origin.choose settings.seed settings.secure).twister world.unforeseen

/-- Reads the schema and runs over it. -/
def runFiller {Sink : Type v} (filler : Filler Sink Twister) (settings : Settings)
    (path : Text) (sink : Sink) :
    Except Fault (List TableResult) × Filler.State Sink Twister :=
  let state := Filler.State.start sink (random world settings) world.clock
  match readSchema world path with
  | .error fault => (.error fault, state)
  | .ok document => filler.run document state

def writeRecords (logging : Log.Session) (records : List Log.Record) (effect : Effect State) :
    Effect State :=
  (effect.log records).complain (records.flatMap (logging.write world.logTime))

/-- What is printed once a run is over and its destination closed. -/
def finish (results : List TableResult) (diagnostics : Diagnostics) (effect : Effect State) :
    Effect State :=
  let effect := effect.printLine (diagnostics.render "\n")
  match Report.results results with
  | .error fault => effect.escape fault
  | .ok text => (effect.print text).exit (if results.all (·.success) then 0 else 1)

def startLine (path : Text) (policy : Policy) (destination : Text) : Text :=
  "Filling tables from '" ++ path ++ "' (rows=" ++ Decimal.natural policy.rowCount ++ ", mode=" ++
    policy.mode ++ ", sink=" ++ destination ++ ")."

/-- A run without a database. -/
def fillDry (settings : Settings) (logging : Log.Session) (path : Text) (policy : Policy)
    (effect : Effect State) : Effect State :=
  let filler : Filler DryRun.Statements Twister :=
    ⟨⟨policy, world.instant, Twister.source⟩, DryRun.destination, settings.strict⟩
  let effect := effect.printLine (startLine path policy filler.destination.name)
  let (results, state) := runFiller world filler settings path []
  let effect := writeRecords world logging state.records effect
  match results with
  | .ok results => finish results state.diagnostics effect
  | .error fault => if fault.isExpected then effect.report fault else effect.escape fault

/-- A run into the database.  The connection is closed before anything else is
printed, whatever became of the run. -/
def fillDatabase (settings : Settings) (logging : Log.Session) (path : Text) (policy : Policy)
    (effect : Effect State) : Effect State :=
  let filler : Filler (Database.Session State) Twister :=
    ⟨⟨policy, world.instant, Twister.source⟩,
      Database.destination world.server
        (Database.Session.connect world.server settings.parameters) settings.parameters,
      settings.strict⟩
  let effect := effect.printLine (startLine path policy filler.destination.name)
  let (results, state) := runFiller world filler settings path effect.session
  let effect := writeRecords world logging state.records effect
  let effect := match results with
    | .error fault => if fault.isExpected then effect.report fault else effect
    | .ok _ => effect
  let (closed, session) := state.sink.close world.server
  let effect := writeRecords world logging session.records { effect with session }
  match closed, results with
  | .error fault, _ => effect.escape fault
  | .ok _, .error fault => if fault.isExpected then effect else effect.escape fault
  | .ok _, .ok results => finish results state.diagnostics effect

def policyComplaint (issues : List Issue) : Text :=
  "Invalid generation settings: " ++ (Fault.invalid Policy.modelName issues).message

def fill (schema : Option Text) (overrides : Overrides) : Effect State :=
  let effect := startWithSettings world
  match settings world with
  | .error fault => effect.escape fault
  | .ok settings =>
      let settings := overrides.apply schema settings
      let format := if settings.jsonLogs then Log.Format.json else Log.Format.console
      match Log.Session.initial.configure (.text settings.logLevel) format true with
      | .error fault => effect.escape fault
      | .ok logging =>
          match settings.schemaFile with
          | none | some [] => (effect.complainLine "No schema file specified.").exit 1
          | some path =>
              match settings.policy with
              | .invalid issues => (effect.complainLine (policyComplaint issues)).exit 1
              | .valid policy =>
                  if settings.dryRun then fillDry world settings logging path policy effect
                  else fillDatabase world settings logging path policy effect

/-- The paths of the schemas that a command line may read. -/
def schemaPaths (words : List Text) : List Text :=
  words.map Path.normalize ++
    match settings world with
    | .ok settings => settings.schemaFile.toList.map Path.normalize
    | .error _ => []

/-- Runs a command line. -/
def run (words : List Text) : Effect State :=
  match invocation? words with
  | none => ((Effect.start world).complainLine usage).exit usageStatus
  | some .unusablePath => (Effect.start world).escape .nullInPath
  | some .info => info world
  | some (.inspect schema) => inspect world schema
  | some (.fill schema overrides) => fill world schema overrides

end Command

end SchemaSeed
