import SchemaSeed.Database.Connection
import SchemaSeed.Policy
import SchemaSeed.Settings.Dotenv
import SchemaSeed.Text.Letter

/-! Settings of the program.  Arguments come first, then the environment, then a file
of settings, then the defaults. -/

namespace SchemaSeed

structure Settings where
  schemaFile : Option Text
  rowCount : Int
  randomized : Bool
  low : Int
  high : Int
  seed : Option Int
  secure : Bool
  strict : Bool
  dryRun : Bool
  host : Text
  port : Int
  user : Text
  password : Text
  database : Text
  charset : Text
  logLevel : Text
  jsonLogs : Bool
deriving Repr, DecidableEq

namespace Settings

/-- Where settings are looked for. -/
structure Sources where
  arguments : List (Text × Datum) := []
  environment : List (Text × Text) := []
  file : List (Text × Option Text) := []

namespace Sources

/-- The last value under a name that is written without regard to case. -/
def last? (name : Text) : List (Text × α) → Option α
  | [] => none
  | (found, value) :: rest =>
      match last? name rest with
      | some later => some later
      | none => if found.lower = name.lower then some value else none

/-- The first source that has a value for a setting, under the name by which a
complaint will point to it.  That name is the one of the field in capitals; arguments
may go by the name of the field too. -/
def find? (sources : Sources) (field : Text) : Option (Text × Datum) :=
  let name := field.upper
  match Datum.field? name sources.arguments, Datum.field? field sources.arguments with
  | some value, _ => some (name, value)
  | none, some value => some (field, value)
  | none, none =>
      match (last? name sources.environment).or (last? name sources.file).join with
      | some value => some (name, .text value)
      | none => none

def setting (sources : Sources) (field : Text) (absent : α) (read : Datum → Checked α) :
    Checked α :=
  match sources.find? field with
  | some (name, value) => (read value).below name
  | none => .valid absent

end Sources

def modelName : Text := "Settings"

def ofSources (sources : Sources) : Checked Settings :=
  open Validation in
  Settings.mk <$>
    sources.setting "schema_file" none (optional text) <*>
    sources.setting "num_rows" 1 integer <*>
    sources.setting "random_data" true truth <*>
    sources.setting "low_char" 33 integer <*>
    sources.setting "high_char" 126 integer <*>
    sources.setting "random_seed" none (optional integer) <*>
    sources.setting "secure_random" false truth <*>
    sources.setting "strict_types" false truth <*>
    sources.setting "debug" false truth <*>
    sources.setting "db_host" "localhost" text <*>
    sources.setting "db_port" 3306 integer <*>
    sources.setting "db_user" "root" text <*>
    sources.setting "db_password" [] text <*>
    sources.setting "db_name" "test" text <*>
    sources.setting "db_encoding" "utf8mb4" text <*>
    sources.setting "log_level" "INFO" text <*>
    sources.setting "json_logs" false truth

/-- The policy that the settings describe. -/
def policy (settings : Settings) : Checked Policy :=
  Policy.ofFields
    (Policy.Draft.fields ⟨settings.rowCount, settings.randomized, settings.low, settings.high⟩)

def parameters (settings : Settings) : Database.Parameters :=
  ⟨settings.host, settings.port, settings.user, settings.password, settings.database,
    settings.charset⟩

/-- The settings as named values. -/
def fields (settings : Settings) : List (Text × Datum) :=
  let optional {α : Type} (wrap : α → Datum) (value : Option α) : Datum :=
    (value.map wrap).getD .null
  [("schema_file", optional .text settings.schemaFile),
    ("num_rows", .integer settings.rowCount),
    ("random_data", .truth settings.randomized),
    ("low_char", .integer settings.low),
    ("high_char", .integer settings.high),
    ("random_seed", optional .integer settings.seed),
    ("secure_random", .truth settings.secure),
    ("strict_types", .truth settings.strict),
    ("debug", .truth settings.dryRun),
    ("db_host", .text settings.host),
    ("db_port", .integer settings.port),
    ("db_user", .text settings.user),
    ("db_password", .text settings.password),
    ("db_name", .text settings.database),
    ("db_encoding", .text settings.charset),
    ("log_level", .text settings.logLevel),
    ("json_logs", .truth settings.jsonLogs)]

def fieldNames : List Text := List.map String.toList [
  "schema_file", "num_rows", "random_data", "low_char", "high_char", "random_seed",
  "secure_random", "strict_types", "debug", "db_host", "db_port", "db_user", "db_password",
  "db_name", "db_encoding", "log_level", "json_logs"]

end Settings

end SchemaSeed
