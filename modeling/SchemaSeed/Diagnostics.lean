import SchemaSeed.Log.Record

/-! Messages about a run, in the order in which they came.  Each one is also
logged. -/

namespace SchemaSeed

abbrev Diagnostics := List Text

namespace Diagnostics

def record (message : Text) (level : Log.Level) : Log.Record where
  level := level
  logger := "dbfiller.diagnostics"
  message := message

def add (diagnostics : Diagnostics) (message : Text) : Diagnostics :=
  diagnostics ++ [message]

@[simp] theorem length_add (diagnostics : Diagnostics) (message : Text) :
    (diagnostics.add message).length = diagnostics.length + 1 := by
  simp [add]

/-- All messages on lines of their own, framed by a line break on either side. -/
def render (diagnostics : Diagnostics) (lineBreak : Text) : Text :=
  lineBreak ++ Text.join lineBreak diagnostics ++ lineBreak

end Diagnostics

end SchemaSeed
