import SchemaSeed.Log.Line
import SchemaSeed.Text.Letter

/-! The logging of a whole process: one root level, and the handlers that write
what passes it. -/

namespace SchemaSeed

namespace Log

structure Handler where
  level : Level
  format : Format
deriving Repr, DecidableEq

structure Session where
  level : Level
  handlers : List Handler
deriving Repr, DecidableEq

namespace Session

/-- Nothing is configured: warnings pass, and nobody writes them. -/
def initial : Session := ⟨Level.warning, []⟩

/-- The level that a setting names, in whatever case. -/
def levelOf (setting : Datum) : Except Fault Level :=
  match setting with
  | .text name =>
      match Level.ofName? name.upper with
      | some level => .ok level
      | none => .error .unknownLogLevel
  | other => .error (.logLevelNotText other.typeName)

/-- Puts one handler in place of all earlier ones.  Unless forced, an existing
configuration stays; a level that does not exist changes nothing. -/
def configure (session : Session) (level : Datum) (format : Format) (force : Bool) :
    Except Fault Session :=
  if !force && !session.handlers.isEmpty then .ok session
  else (levelOf level).map fun level => ⟨level, [⟨level, format⟩]⟩

/-- Names that a record keeps for itself. -/
def reservedName? (extra : List (Text × Datum)) : Option Text :=
  (extra.map (·.1)).find? Entry.ownAttributes.contains

/-- What a session writes for a record. -/
def write (session : Session) (time : Text) (record : Record) : Text :=
  if record.reaches session.level then
    (session.handlers.filter fun handler => handler.level ≤ record.level).flatMap
      fun handler => record.line handler.format time ++ "\n"
  else []

/-- As `write`, refusing levels that are too long to be named, and further values that
would hide an attribute of the record. -/
def log (session : Session) (time : Text) (record : Record) : Except Fault Text :=
  if record.reaches session.level then
    if Decimal.isTooLong record.level then .error .numberTooLong
    else match reservedName? record.extra with
    | some name =>
        .error (.failed ⟨.lookup,
          [.text ("Attempt to overwrite " ++ name.quoted ++ " in LogRecord")], none⟩)
    | none => .ok (session.write time record)
  else .ok []

end Session

end Log

end SchemaSeed
