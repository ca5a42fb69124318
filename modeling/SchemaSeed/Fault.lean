import SchemaSeed.Text.Expression
import SchemaSeed.Text.Template
import SchemaSeed.Text.Utf8
import SchemaSeed.Text.Blank
import SchemaSeed.Validation

/-! Everything that can go wrong, as causes.  The sentence that reports a cause
and the label under which a log names it are functions of it.  Whoever writes that
sentence may fail in turn: a number of too many digits is not written, and what comes
from elsewhere may have no text at all. -/

namespace SchemaSeed

/-- The families of errors a database client raises.  `warning` and `error` stand
directly under the root, the last six under `databaseError`. -/
inductive DatabaseKind
  | root
  | warning
  | error
  | interface
  | databaseError
  | data
  | operational
  | integrity
  | internal
  | programming
  | notSupported
deriving Repr, DecidableEq

namespace DatabaseKind

def label : DatabaseKind → Text
  | .root => "MySQLError"
  | .warning => "Warning"
  | .error => "Error"
  | .interface => "InterfaceError"
  | .databaseError => "DatabaseError"
  | .data => "DataError"
  | .operational => "OperationalError"
  | .integrity => "IntegrityError"
  | .internal => "InternalError"
  | .programming => "ProgrammingError"
  | .notSupported => "NotSupportedError"

/-- Whether the kind lies in the family of `error`. -/
def isError : DatabaseKind → Bool
  | .root | .warning => false
  | _ => true

end DatabaseKind

inductive FailureKind
  | value
  | lookup
  | system
  | destination
  | database (kind : DatabaseKind)
deriving Repr, DecidableEq

/-- A failure that a collaborator raises: a destination, a connection, a server.
It carries arguments of its own and may name the table it concerns. -/
structure Failure where
  kind : FailureKind
  arguments : List Datum
  table : Option Text

namespace Failure

/-- The name of a system failure depends on its error number. -/
def systemLabel (number : Int) : Text :=
  if number = 1 ∨ number = 13 then "PermissionError"
  else if number = 2 then "FileNotFoundError"
  else if number = 3 then "ProcessLookupError"
  else if number = 4 then "InterruptedError"
  else if number = 10 then "ChildProcessError"
  else if number = 11 ∨ number = 114 ∨ number = 115 then "BlockingIOError"
  else if number = 17 then "FileExistsError"
  else if number = 20 then "NotADirectoryError"
  else if number = 21 then "IsADirectoryError"
  else if number = 32 ∨ number = 108 then "BrokenPipeError"
  else if number = 103 then "ConnectionAbortedError"
  else if number = 104 then "ConnectionResetError"
  else if number = 110 then "TimeoutError"
  else if number = 111 then "ConnectionRefusedError"
  else "OSError"

def label (failure : Failure) : Text :=
  match failure.kind, failure.arguments with
  | .value, _ => "ValueError"
  | .lookup, _ => "KeyError"
  | .destination, _ => "SinkError"
  | .database kind, _ => kind.label
  | .system, .integer number :: _ :: rest =>
      if rest.length ≤ 3 then systemLabel number else "OSError"
  | .system, .truth true :: _ :: rest => if rest.length ≤ 3 then systemLabel 1 else "OSError"
  | .system, _ => "OSError"

/-- One argument is the message, several are shown as a group. -/
def plainMessage : List Datum → Text
  | [] => []
  | [only] => only.plain
  | several => Datum.displayGroup several

/-- Number, text and, where given, the names of one or two files. -/
def systemMessage (arguments : List Datum) : Text :=
  let head (number text : Datum) : Text := "[Errno " ++ number.plain ++ "] " ++ text.plain
  match arguments with
  | [number, text] => head number text
  | [number, text, .null] | [number, text, .null, _] | [number, text, .null, _, _] =>
      head number text
  | [number, text, file] | [number, text, file, _] | [number, text, file, _, .null] =>
      head number text ++ ": " ++ file.display
  | [number, text, file, _, other] =>
      head number text ++ ": " ++ file.display ++ " -> " ++ other.display
  | others => plainMessage others

def message (failure : Failure) : Text :=
  match failure.kind, failure.arguments with
  | .lookup, [only] => only.display
  | .system, arguments => systemMessage arguments
  | _, arguments => plainMessage arguments

/-- The arguments that `systemMessage` makes use of. -/
def systemArguments : List Datum → List Datum
  | [number, text, .null] | [number, text, .null, _] | [number, text, .null, _, _] =>
      [number, text]
  | [number, text, file, _] | [number, text, file, _, .null] => [number, text, file]
  | [number, text, file, _, other] => [number, text, file, other]
  | others => others

/-- Whether all that the message shows can be written. -/
def isWritable (failure : Failure) : Bool :=
  match failure.kind with
  | .system => Datum.areWritable (systemArguments failure.arguments)
  | _ => Datum.areWritable failure.arguments

end Failure

/-- What stands for the text of a fault that has none. -/
def unwrittenText : Text := "<exception str() failed>"

inductive Fault where
  | unterminatedQuote (quote : Char) (text : Text)
  | missingTableName (head : Text)
  | emptyBlock
  | missingPrimaryKey (table : Text)
  | unsupportedColumns (table : Text) (columns : List Text)
  | schemaMissing
  | schemaFileMissing (path : Text)
  | pathTooLong (path : Text)
  | nullInPath
  | undecodable (problem : Utf8.Problem)
  | numeralTooLong (digits : Nat)
  | numberTooLong
  | emptyNumeral
  | numberTooLarge
  | lengthTooLarge
  | outOfMemory
  | emptyRange
  | nothingToChoose
  | remainderByZero
  | notText (position : Nat) (found : Text)
  | connectionFailed (reason code : Text)
  | invalid (model : Text) (issues : List Issue)
  | unknownLogLevel
  | logLevelNotText (found : Text)
  | badTemplate (problem : Template.Problem)
  | strayClosingTag (tag : Text) (position : Nat)
  | nothingToClose (position : Nat)
  | badAction (expression parameters : Text) (problem : Expression.Problem)
  | failed (failure : Failure)
  /-- A fault of a class of its own.  Asking for its text may end in another fault. -/
  | foreign (label : Text) (text : Except Fault Text) (table : Option Text)

namespace Fault

def ofComplaints (model : Text) : Checked α → Except Fault α
  | .valid value => .ok value
  | .invalid issues => .error (.invalid model issues)

/-! The quoted part of a message is cut after eighty characters. -/

def excerptLength : Nat := 80

def excerpt (text : Text) : Text :=
  Text.quoted (text.take excerptLength)

def issueCount (count : Nat) : Text :=
  Decimal.natural count ++ (if count = 1 then " validation error" else " validation errors")

/-- A value in a complaint is cut in the middle beyond fifty characters. -/
def abbreviated (shown : Text) : Text :=
  if shown.length ≤ 50 then shown
  else shown.take 25 ++ "..." ++ shown.drop (shown.length - 24)

def issueText (issue : Issue) : Text :=
  let place : Text :=
    if issue.location.isEmpty then [] else Text.join "." issue.location ++ "\n"
  place ++ "  " ++ issue.message ++ " [type=" ++ issue.kind ++ ", input_value=" ++
    abbreviated issue.input.display ++ ", input_type=" ++ issue.input.typeName ++ "]"

def message : Fault → Text
  | .unterminatedQuote quote text =>
      "Unterminated " ++ [quote] ++ " quote in: " ++ excerpt text.collapse
  | .missingTableName head =>
      "No backtick-quoted table name in: " ++ excerpt head
  | .emptyBlock => "Empty table block."
  | .missingPrimaryKey table =>
      "Table '" ++ table ++ "' declares no backtick-quoted PRIMARY KEY."
  | .unsupportedColumns table columns =>
      "Table '" ++ table ++ "' has columns of unsupported type: " ++ Text.join ", " columns
  | .schemaMissing => "Either schema_file or schema_text is required."
  | .schemaFileMissing path => "The schema file '" ++ path ++ "' does not exist."
  | .pathTooLong path => "[Errno 36] File name too long: " ++ path.quoted
  | .nullInPath => "embedded null byte"
  | .undecodable problem => problem.message
  | .numeralTooLong digits =>
      Decimal.limitText ++ ": value has " ++ Decimal.natural digits ++ " digits" ++
        Decimal.limitAdvice
  | .numberTooLong => Decimal.limitText ++ Decimal.limitAdvice
  | .emptyNumeral => "invalid literal for int() with base 10: ''"
  | .numberTooLarge => "int too large to convert to float"
  | .lengthTooLarge => "cannot fit 'int' into an index-sized integer"
  | .outOfMemory => []
  | .emptyRange => "empty range for randrange()"
  | .nothingToChoose => "Cannot choose from an empty sequence"
  | .remainderByZero => "integer modulo by zero"
  | .notText position found =>
      "sequence item " ++ Decimal.natural position ++ ": expected str instance, " ++ found ++
        " found"
  | .connectionFailed reason code =>
      "Database connection failed: " ++ reason ++ " (error number: " ++ code ++ ")"
  | .invalid model issues =>
      issueCount issues.length ++ " for " ++ model ++ "\n" ++
        Text.join "\n" (issues.map issueText)
  | .unknownLogLevel => "Unable to configure handler 'default'"
  | .logLevelNotText found => "'" ++ found ++ "' object has no attribute 'upper'"
  | .badTemplate problem => problem.message
  | .strayClosingTag tag position =>
      "closing tag '" ++ tag ++ "' at position " ++ Decimal.natural position ++
        " doesn't match any open tag"
  | .nothingToClose position =>
      "closing tag '[/]' at position " ++ Decimal.natural position ++ " has nothing to close"
  | .badAction expression parameters problem =>
      let place := if problem.isOfValue then parameters.quoted
        else expression.quoted ++ " in " ++ parameters.quoted
      "error parsing " ++ place ++ "; " ++ problem.message
  | .failed failure => failure.message
  | .foreign _ (.ok text) _ => text
  | .foreign _ (.error _) _ => unwrittenText

/-- The sentence, or what is raised in its place when it is written. -/
def text : Fault → Except Fault Text
  | .failed failure => if failure.isWritable then .ok failure.message else .error .numberTooLong
  | .foreign _ text _ => text
  | fault => .ok fault.message

theorem eq_message_of_text {fault : Fault} {sentence : Text} (written : fault.text = .ok sentence) :
    sentence = fault.message := by
  cases fault with
  | failed failure =>
      change (if failure.isWritable then .ok failure.message else .error numberTooLong) =
        (.ok sentence : Except Fault Text) at written
      split at written
      · exact (Except.ok.inj written).symm
      · cases written
  | foreign label text table =>
      change text = .ok sentence at written
      subst written
      rfl
  | _ => exact (Except.ok.inj written).symm

def label : Fault → Text
  | .unterminatedQuote .. | .missingTableName _ | .emptyBlock => "SchemaParseError"
  | .missingPrimaryKey _ => "MissingPrimaryKeyError"
  | .unsupportedColumns .. => "UnsupportedColumnError"
  | .schemaFileMissing _ => "SchemaFileNotFoundError"
  | .pathTooLong _ => "OSError"
  | .undecodable _ => "UnicodeDecodeError"
  | .schemaMissing | .nullInPath | .numeralTooLong _ | .numberTooLong | .emptyNumeral | .emptyRange
  | .unknownLogLevel => "ValueError"
  | .numberTooLarge | .lengthTooLarge => "OverflowError"
  | .outOfMemory => "MemoryError"
  | .nothingToChoose => "IndexError"
  | .remainderByZero => "ZeroDivisionError"
  | .notText .. => "TypeError"
  | .logLevelNotText _ => "AttributeError"
  | .connectionFailed .. => "SinkError"
  | .invalid .. => "ValidationError"
  | .badTemplate problem => problem.label
  | .strayClosingTag .. | .nothingToClose _ | .badAction .. => "MarkupError"
  | .failed failure => failure.label
  | .foreign label _ _ => label

/-! The table a fault names, and the families that different callers tell apart. -/

def table? : Fault → Option Text
  | .missingPrimaryKey table => some table
  | .unsupportedColumns table _ => some table
  | .failed failure => failure.table
  | .foreign _ _ table => table
  | _ => none

/-- A block that cannot be read as a table. -/
def isUnreadableTable : Fault → Bool
  | .unterminatedQuote .. | .missingTableName _ | .emptyBlock | .missingPrimaryKey _ => true
  | _ => false

/-- The destination cannot be reached at all, which ends a run. -/
def isUnreachableDestination : Fault → Bool
  | .connectionFailed .. => true
  | .failed failure => failure.kind == .destination
  | _ => false

/-- What ends a run that meets a fault at one of its tables, if anything does: the fault
itself, if the destination cannot be reached, or what is raised when its text is written. -/
def ending? (fault : Fault) : Option Fault :=
  if fault.isUnreachableDestination then some fault
  else
    match fault.text with
    | .error refusal => some refusal
    | .ok _ => none

/-- Faults of this program's own making, reported without further ado. -/
def isExpected : Fault → Bool
  | .unsupportedColumns .. | .schemaFileMissing _ => true
  | fault => fault.isUnreadableTable || fault.isUnreachableDestination

def databaseKind? : Fault → Option DatabaseKind
  | .failed failure =>
      match failure.kind with
      | .database kind => some kind
      | _ => none
  | _ => none

def isDatabase (fault : Fault) : Bool :=
  fault.databaseKind?.isSome

/-- A fault of the database is a failure that the database raised. -/
theorem exists_failure_of_isDatabase {fault : Fault} (database : fault.isDatabase = true) :
    ∃ failure kind, fault = .failed failure ∧ failure.kind = .database kind := by
  cases fault with
  | failed failure =>
      cases known : failure.kind with
      | database kind => exact ⟨failure, kind, rfl, known⟩
      | _ => simp [isDatabase, databaseKind?, known] at database
  | _ => cases database

theorem text_of_unwritable {failure : Failure} (unwritable : failure.isWritable = false) :
    (failed failure).text = .error numberTooLong := by
  change (if failure.isWritable then _ else _) = _
  rw [unwritable]
  rfl

theorem text_of_database {failure : Failure} {kind : DatabaseKind}
    (known : failure.kind = .database kind) :
    (failed failure).text =
      if Datum.areWritable failure.arguments then .ok failure.message
      else .error numberTooLong := by
  change (if failure.isWritable then _ else _) = _
  rw [Failure.isWritable, known]

def arguments : Fault → List Datum
  | .failed failure => failure.arguments
  | fault => [.text fault.message]

/-- Label and text, the last line of what a log shows of a fault.  The lines above it name
places in a program and are left out. -/
def summary (fault : Fault) : Text :=
  let sentence := match fault.text with
    | .ok text => text
    | .error _ => unwrittenText
  fault.label ++ ": " ++ sentence

end Fault

end SchemaSeed
