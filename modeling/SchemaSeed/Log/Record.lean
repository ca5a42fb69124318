import SchemaSeed.Fault

/-! Log records: what happened, how grave it is, who says so, and further named
values. -/

namespace SchemaSeed

namespace Log

abbrev Level := Int

namespace Level

def debug : Level := 10
def info : Level := 20
def warning : Level := 30
def error : Level := 40
def critical : Level := 50

/-- The standing levels, with the name each one is shown by. -/
def standing : List (Level × Text) :=
  [(critical, "CRITICAL"), (error, "ERROR"), (warning, "WARNING"), (info, "INFO"),
    (debug, "DEBUG"), (0, "NOTSET")]

def name (level : Level) : Text :=
  match standing.find? (·.1 == level) with
  | some (_, shown) => shown
  | none => "Level " ++ Decimal.integer level

/-- The level that a name in upper case stands for. -/
def ofName? (shown : Text) : Option Level :=
  if shown = "WARN" then some warning
  else if shown = "FATAL" then some critical
  else (standing.find? (·.2 == shown)).map (·.1)

end Level

structure Record where
  level : Level
  logger : Text
  message : Text
  extra : List (Text × Datum) := []
  fault : Option Fault := none

end Log

end SchemaSeed
