import SchemaSeed.Database.Connect
import SchemaSeed.Destination

/-! One transaction per batch.  The statement is sent once; if it or the commit
fails, the warnings of the server are collected, the transaction is rolled back,
and the failure becomes the detail of the outcome.  Whatever is in the way of that, be it
an error that cannot be written, ends the call there. -/

namespace SchemaSeed

namespace Database

/-- Above this many rows, an administrator raises the packet limit of the server. -/
def largeBatch : Nat := 1500

def administrator : Text := "root"

def disableKeyChecks : Text := "SET foreign_key_checks = 0"

def raisePacketLimit : Text := "SET GLOBAL max_allowed_packet = 268435456"

def showWarnings : Text := "SHOW WARNINGS"

/-- The statements that prepare a batch of that many rows. -/
def preparation (parameters : Parameters) (rowCount : Nat) : List Text :=
  disableKeyChecks ::
    if parameters.user = administrator ∧ largeBatch < rowCount then [raisePacketLimit] else []

/-- Values between bars, if all of them can be written. -/
def bars (values : List Datum) : Except Fault Text :=
  if Datum.areWritable values then .ok (Text.join " | " (values.map Datum.plain))
  else .error .numberTooLong

/-- The arguments of an error, or its text when there is nothing in them. -/
def errorLine (fault : Fault) : Except Fault Text :=
  match bars fault.arguments with
  | .ok [] => fault.text
  | written => written

/-- The lines on a failure: one on the error, then one for each warning. -/
def detailLines (line : Text) (warnings : List (List Datum)) : Except Fault (List Text) :=
  (warnings.mapM bars).map (line :: ·)

/-- The outcome of a batch that changed so many rows. -/
def success (affected : Int) : Except Fault Outcome :=
  if Decimal.isTooLong affected then .error .numberTooLong
  else .ok ⟨true, Decimal.integer affected ++ " rows affected"⟩

namespace Session

variable {State : Type u} (server : Server State)

def executeAll (session : Session State) : List Text → Except Fault Unit × Session State
  | [] => (.ok (), session)
  | statement :: rest =>
      match session.act server (.execute statement) with
      | (.error fault, session) => (.error fault, session)
      | (.ok _, session) => executeAll session rest

def warningsUnavailable (refusal : Text) : Log.Record where
  level := Log.Level.debug
  logger := "dbfiller.sinks.mysql"
  message := "SHOW WARNINGS failed"
  extra := [("error", .text refusal)]

def insertFailed (table failure : Text) : Log.Record where
  level := Log.Level.warning
  logger := "dbfiller.sinks.mysql"
  message := "Insert into " ++ table ++ " failed"
  extra := [("table", .text table), ("error", .text failure)]

/-- The rows with which the server answers a request for its warnings. -/
def warnings (session : Session State) : Except Fault (List (List Datum)) × Session State :=
  match session.act server (.execute showWarnings) with
  | (.error refusal, session) => (.error refusal, session)
  | (.ok _, session) => session.fetch server

/-- The error, then a line per warning of the server where it will tell them.  The line on
the error is written before the server is asked. -/
def failureLines (fault : Fault) (session : Session State) :
    Except Fault (List Text) × Session State :=
  match errorLine fault with
  | .error refusal => (.error refusal, session)
  | .ok line =>
      match session.warnings server with
      | (.ok warnings, session) => (detailLines line warnings, session)
      | (.error refusal, session) =>
          if refusal.isDatabase then
            match refusal.text with
            | .error unwritten => (.error unwritten, session)
            | .ok text => (.ok [line], session.note (warningsUnavailable text))
          else (.error refusal, session)

/-- What becomes of a failed transaction.  Only database errors are dealt with. -/
def recover (table : Text) (fault : Fault) (session : Session State) :
    Except Fault Outcome × Session State :=
  if fault.isDatabase then
    match session.failureLines server fault with
    | (.error refusal, session) => (.error refusal, session)
    | (.ok lines, session) =>
        match session.act server .rollback with
        | (.error refusal, session) => (.error refusal, session)
        | (.ok _, session) =>
            match fault.text with
            | .error unwritten => (.error unwritten, session)
            | .ok text =>
                (.ok ⟨false, Text.join "\n" lines⟩, session.note (insertFailed table text))
  else (.error fault, session)

/-- Statement and commit. -/
def transact (table statement : Text) (session : Session State) :
    Except Fault Outcome × Session State :=
  match session.act server (.execute statement) with
  | (.error fault, session) => session.recover server table fault
  | (.ok affected, session) =>
      match session.act server .commit with
      | (.error fault, session) => session.recover server table fault
      | (.ok _, session) => (success affected, session)

/-- Everything done while a cursor is open. -/
def withinCursor (preparation : List Text) (table statement : Text) (session : Session State) :
    Except Fault Outcome × Session State :=
  match session.executeAll server preparation with
  | (.error fault, session) => (.error fault, session)
  | (.ok _, session) => session.transact server table statement

/-- Sends a batch.  The cursor is left on every path on which it was opened; if that is
refused, nothing else is answered. -/
def insert (connect : Opening State) (parameters : Parameters) (batch : Batch)
    (session : Session State) : Except Fault Outcome × Session State :=
  match batch.statement with
  | .error fault => (.error fault, session)
  | .ok statement =>
      match session.ensureConnected connect with
      | (.error fault, session) => (.error fault, session)
      | (.ok _, session) =>
          match session.act server .cursor with
          | (.error fault, session) => (.error fault, session)
          | (.ok _, session) =>
              let (outcome, session) :=
                session.withinCursor server (preparation parameters batch.rows.length)
                  batch.table statement
              match session.act server .leaveCursor with
              | (.error fault, session) => (.error fault, session)
              | (.ok _, session) => (outcome, session)

def alreadyClosed : Log.Record where
  level := Log.Level.debug
  logger := "dbfiller.sinks.mysql"
  message := "Connection already closed"

/-- Gives the connection up, whether or not the server lets it be closed. -/
def close (session : Session State) : Except Fault Unit × Session State :=
  if session.connected then
    match session.act server .close with
    | (.ok _, session) => (.ok (), session.hold false)
    | (.error fault, session) =>
        let session := session.hold false
        match fault.databaseKind? with
        | some kind =>
            if kind.isError then (.ok (), session.note alreadyClosed) else (.error fault, session)
        | none => (.error fault, session)
  else (.ok (), session)

end Session

/-- A database as a destination.  Records noted while a batch is sent are passed on
with its outcome. -/
def destination {State : Type u} (server : Server State) (connect : Session.Opening State)
    (parameters : Parameters) : Destination (Session State) where
  name := "mysql"
  deliver batch session :=
    let (outcome, after) := session.insert server connect parameters batch
    (⟨outcome, after.records⟩, { after with records := [] })

end Database

end SchemaSeed
