import SchemaSeed.Log.Record

/-! The connection to a database as its client sees it: actions, each of which the
server may refuse, and a transcript of what was done. -/

namespace SchemaSeed

namespace Database

structure Parameters where
  host : Text
  port : Int
  user : Text
  password : Text
  database : Text
  charset : Text
deriving Repr, DecidableEq

inductive Action where
  | connect (parameters : Parameters)
  | cursor
  | execute (statement : Text)
  | leaveCursor
  | commit
  | rollback
  | close
deriving Repr, DecidableEq

def Action.name : Action → Text
  | .connect _ => "connect"
  | .cursor => "cursor"
  | .execute statement => "execute " ++ statement
  | .leaveCursor => "cursor_exit"
  | .commit => "commit"
  | .rollback => "rollback"
  | .close => "close"

/-- A server answers an action with the number of rows affected, or refuses it.  The
rows that the last statement gave can be fetched, if that is not refused. -/
structure Server (State : Type u) where
  perform : Action → State → Except Fault Int × State
  fetch : State → Except Fault (List (List Datum)) × State

/-- One step of a session as it is written down. -/
inductive Event where
  | acted (action : Action) (completed : Bool)
  | paused (seconds : Nat)
deriving Repr, DecidableEq

/-- The client's side: the server, whether a connection is held, what was done so
far, and what is to be logged. -/
structure Session (State : Type u) where
  server : State
  connected : Bool
  transcript : List Event
  records : List Log.Record

namespace Session

variable {State : Type u}

def start (server : State) : Session State :=
  ⟨server, false, [], []⟩

def act (server : Server State) (action : Action) (session : Session State) :
    Except Fault Int × Session State :=
  let (answer, state) := server.perform action session.server
  (answer, { session with
    server := state
    transcript := session.transcript ++ [.acted action answer.isOk] })

/-- Fetching is no action of its own and leaves no trace in the transcript. -/
def fetch (server : Server State) (session : Session State) :
    Except Fault (List (List Datum)) × Session State :=
  let (answer, state) := server.fetch session.server
  (answer, { session with server := state })

def pause (seconds : Nat) (session : Session State) : Session State :=
  { session with transcript := session.transcript ++ [.paused seconds] }

def note (record : Log.Record) (session : Session State) : Session State :=
  { session with records := session.records ++ [record] }

def hold (connected : Bool) (session : Session State) : Session State :=
  { session with connected }

end Session

end Database

end SchemaSeed
