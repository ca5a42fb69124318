import SchemaSeed.Command
import SchemaSeed.Database.Unreachable
import Std.Time

/-! The program.  It gathers what a command may look at, lets the command decide, and
prints what came of it.  A command decides at once, so its clock stands still, and
without a client for the wire protocol no server can be reached. -/

namespace SchemaSeed

namespace Program

def file? (path : Text) : IO (Option (List UInt8)) := do
  try
    return some (← IO.FS.readBinFile (String.ofList path)).toList
  catch _ =>
    return none

def files (paths : List Text) : IO (List (Text × List UInt8)) :=
  paths.filterMapM fun path => do
    return (← file? path).map fun content => (path, content)

/-- The settings that the environment gives, in capitals or in small letters. -/
def environment : IO (List (Text × Text)) :=
  (Settings.fieldNames ++ Settings.fieldNames.map Text.upper).filterMapM fun name => do
    return (← IO.getEnv (String.ofList name)).map fun value => (name, value.toList)

def instant : IO Instant := do
  let now ← Std.Time.PlainDateTime.now
  return ⟨now.year.toInt.toNat, now.month.val.toNat, now.day.val.toNat, now.hour.val.toNat,
    now.minute.val.toNat, now.second.val.toNat⟩

/-- A generator whose seed is entropy of the system. -/
def unforeseen : IO Twister := do
  let bytes ← IO.getRandomBytes 32
  return Twister.ofSeed (bytes.toList.foldl (fun total byte => 256 * total + byte.toNat) 0)

def world (words : List Text) : IO (Command.World Unit) := do
  let environment ← environment
  let instant ← instant
  let unforeseen ← unforeseen
  let withFiles (found : List (Text × List UInt8)) : Command.World Unit := {
    file := fun path => Fields.get? path found
    environment
    clock := .still
    instant
    logTime := instant.dateTime
    unforeseen
    server := Database.unreachable
    database := () }
  let settings ← files [Command.settingsFile]
  let schemas ← files (Command.schemaPaths (withFiles settings) words)
  return withFiles (settings ++ schemas)

def run (words : List Text) : IO UInt32 := do
  let effect := Command.run (← world words) words
  IO.print (String.ofList effect.output)
  IO.eprint (String.ofList effect.errors)
  if let some fault := effect.escaped then
    IO.eprintln (String.ofList fault.summary)
  return effect.status.toUInt32

end Program

end SchemaSeed

def main (arguments : List String) : IO UInt32 :=
  SchemaSeed.Program.run (arguments.map String.toList)
