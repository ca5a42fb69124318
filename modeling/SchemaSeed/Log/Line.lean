import SchemaSeed.Datum.Json
import SchemaSeed.Log.Record

/-! Log records as lines of text: for readers, or as one JSON object per line for
programs.  In an object the level, the logger and the message come first, then
the further values under their own names. -/

namespace SchemaSeed

namespace Log

/-- A record with everything that a line may show of it.  Further values may also
stand in for the record's own attributes. -/
structure Entry where
  record : Record
  arguments : List Datum := []
  stack : Option Text := none
  /-- The text in which a log shows a fault, with as much of the places it came through as
  the log cares for. -/
  describe : Fault → Text := Fault.summary

namespace Entry

/-- Attributes that every record has; they are not shown among the further values. -/
def ownAttributes : List Text := [
  "name", "msg", "args", "levelname", "levelno", "pathname", "filename", "module",
  "exc_info", "exc_text", "stack_info", "lineno", "funcName", "created", "msecs",
  "relativeCreated", "thread", "threadName", "processName", "process", "message", "asctime"]

def attribute? (entry : Entry) (name : Text) : Option Datum :=
  Datum.field? name entry.record.extra

def levelName (entry : Entry) : Datum :=
  (entry.attribute? "levelname").getD (.text (Level.name entry.record.level))

def loggerName (entry : Entry) : Datum :=
  (entry.attribute? "name").getD (.text entry.record.logger)

def template (entry : Entry) : Except Fault Text :=
  match entry.attribute? "msg" with
  | none => .ok entry.record.message
  | some given => if given.isWritable then .ok given.plain else .error .numberTooLong

/-- The arguments for the message, if there are any. -/
def supply? (entry : Entry) : Option Template.Supply :=
  match entry.attribute? "args" with
  | none =>
      if entry.arguments.isEmpty then none else some (Template.Supply.ofItems entry.arguments)
  | some given => if given.isPresent then some (Template.Supply.ofValue given) else none

/-- The message with its arguments filled in, which happens only if there are any. -/
def message (entry : Entry) : Except Fault Text :=
  match entry.template, entry.supply? with
  | .error fault, _ => .error fault
  | .ok template, none => .ok template
  | .ok template, some supply =>
      match Template.fill template supply with
      | .ok filled => .ok filled
      | .error problem => .error (.badTemplate problem)

def faultText (entry : Entry) : Option Text :=
  match entry.attribute? "exc_info" with
  | some given => if given.isPresent then entry.record.fault.map entry.describe else none
  | none => entry.record.fault.map entry.describe

def stackValue (entry : Entry) : Option Datum :=
  let value := (entry.attribute? "stack_info").or (entry.stack.map Datum.text)
  value.filter Datum.isPresent

/-- Adds the further values one by one; a name that is already there keeps its place
and takes the new value. -/
def promote (payload : List (Text × Datum)) : List (Text × Datum) → List (Text × Datum)
  | [] => payload
  | (name, value) :: rest =>
      if ownAttributes.contains name then promote payload rest
      else promote (Fields.set name value payload) rest

def setOptional (name : Text) (value : Option Datum) (payload : List (Text × Datum)) :
    List (Text × Datum) :=
  match value with
  | some given => Fields.set name given payload
  | none => payload

def payload (entry : Entry) (message : Text) : List (Text × Datum) :=
  let base : List (Text × Datum) :=
    [("level", entry.levelName), ("logger", entry.loggerName), ("message", .text message)]
  setOptional "stack_info" entry.stackValue
    (setOptional "exc_info" (entry.faultText.map Datum.text) (promote base entry.record.extra))

/-- The line of an entry.  Numbers that are too long to be written have none. -/
def jsonLine (entry : Entry) : Except Fault Text :=
  if Decimal.isTooLong entry.record.level then .error .numberTooLong
  else
    match entry.message with
    | .error fault => .error fault
    | .ok message =>
        let line : Datum := .object (entry.payload message)
        if line.isWritable then .ok (Json.render line) else .error .numberTooLong

end Entry

inductive Format
  | console
  | json
deriving Repr, DecidableEq

namespace Record

def jsonLine (record : Record) : Text :=
  Json.render (.object (Entry.payload { record } record.message))

/-- Time, level, logger and message, and on a line of its own what was raised. -/
def consoleLine (time : Text) (record : Record) : Text :=
  let line := Text.join " | " [time, Level.name record.level, record.logger, record.message]
  match record.fault with
  | some fault =>
      let ended := if line.getLast? = some '\n' then line else line ++ "\n"
      ended ++ fault.summary
  | none => line

def line (format : Format) (time : Text) (record : Record) : Text :=
  match format with
  | .console => record.consoleLine time
  | .json => record.jsonLine

/-- Whether a logger with that threshold takes the record.  Records of no level at
all are never taken. -/
def reaches (threshold : Level) (record : Record) : Bool :=
  0 < record.level && threshold ≤ record.level

end Record

end Log

end SchemaSeed
