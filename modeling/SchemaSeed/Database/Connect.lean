import SchemaSeed.Database.Connection

/-! Opening a connection, either with a single attempt or with patience.  An
operational error may pass, so the patient way tries again after a pause, three times
in all; whatever the database reports in the end is wrapped into one fault with its
message and number, if these can be written. -/

namespace SchemaSeed

namespace Database

/-- Seconds between one attempt and the next. -/
def pauses : List Nat := [1, 2]

def isOperational (fault : Fault) : Bool :=
  fault.databaseKind? == some .operational

/-- The message of a database error is its second argument, or else its text. -/
def errorMessage (fault : Fault) : Text :=
  match fault.arguments with
  | _ :: message :: _ => message.plain
  | _ => fault.message

/-- The number of a database error is its first argument. -/
def errorCode (fault : Fault) : Datum :=
  fault.arguments.headD .null

/-- Whether the message can be taken from a database error: an only argument is written
for it at once. -/
def hasMessage (fault : Fault) : Bool :=
  match fault.arguments with
  | [only] => only.isWritable
  | _ => true

/-- Whether message and number can be put into one sentence. -/
def isReportable (fault : Fault) : Bool :=
  match fault.arguments with
  | code :: message :: _ => message.isWritable && code.isWritable
  | few => Datum.areWritable few

namespace Session

variable {State : Type u} (server : Server State) (parameters : Parameters)

/-- Attempts with a pause before each one but the first. -/
def attempts (session : Session State) : List Nat → Except Fault Int × Session State
  | [] => session.act server (.connect parameters)
  | seconds :: later =>
      match session.act server (.connect parameters) with
      | (.ok answer, session) => (.ok answer, session)
      | (.error fault, session) =>
          if isOperational fault then attempts (session.pause seconds) later
          else (.error fault, session)

def refusal (fault : Fault) : Log.Record where
  level := Log.Level.error
  logger := "dbfiller.infrastructure.db_factory"
  message := "Database connection failed"
  extra := [
    ("host", .text parameters.host),
    ("database", .text parameters.database),
    ("code", errorCode fault)]

/-- A way to open the connection of a session. -/
abbrev Opening (State : Type u) := Session State → Except Fault Unit × Session State

/-- One attempt, whose fault is passed on as it is. -/
def connectOnce : Opening State := fun session =>
  match session.act server (.connect parameters) with
  | (.ok _, session) => (.ok (), session.hold true)
  | (.error fault, session) => (.error fault, session)

/-- A fault of the database as one of ours.  It is logged before the sentence on it is
written. -/
def report (fault : Fault) (session : Session State) : Except Fault Unit × Session State :=
  if hasMessage fault then
    let session := session.note (refusal parameters fault)
    if isReportable fault then
      (.error (.connectionFailed (errorMessage fault) (errorCode fault).plain), session)
    else (.error .numberTooLong, session)
  else (.error .numberTooLong, session)

/-- Several attempts, with a fault of the database reported as one of ours. -/
def connect : Opening State := fun session =>
  match session.attempts server parameters pauses with
  | (.ok _, session) => (.ok (), session.hold true)
  | (.error fault, session) =>
      if fault.isDatabase then session.report parameters fault else (.error fault, session)

/-- A connection that is already held is used again. -/
def ensureConnected (connect : Opening State) (session : Session State) :
    Except Fault Unit × Session State :=
  if session.connected then (.ok (), session) else connect session

end Session

end Database

end SchemaSeed
