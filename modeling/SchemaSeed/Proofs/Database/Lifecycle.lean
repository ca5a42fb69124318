import SchemaSeed.Database.Scripted
import SchemaSeed.Proofs.Database.Dialogue

/-! Connections are opened one after another.  Whatever is refused, and with what, the
client asks for a connection only while it has none, uses and closes only the one it has,
and has none once it closed it, also where closing fails. -/

namespace SchemaSeed

namespace Database

universe u

/-! ## Transcripts -/

namespace Event

def opens : Event → Bool
  | acted (.connect _) true => true
  | _ => false

/-- Closing counts whether or not it completes. -/
def closes : Event → Bool
  | acted .close _ => true
  | _ => false

end Event

/-- What needs a connection and leaves it open. -/
def Action.uses : Action → Bool
  | .connect _ | .close => false
  | .cursor | .execute _ | .leaveCursor | .commit | .rollback => true

/-- A transcript in which every action finds a connection open or not as it needs it, from
whether one is open before to whether one is open after. -/
inductive Alternates : Bool → List Event → Bool → Prop
  | done {held : Bool} : Alternates held [] held
  | paused {held after : Bool} {seconds : Nat} {rest : List Event}
      (alternates : Alternates held rest after) :
      Alternates held (.paused seconds :: rest) after
  | refused {after : Bool} {parameters : Parameters} {rest : List Event}
      (alternates : Alternates false rest after) :
      Alternates false (.acted (.connect parameters) false :: rest) after
  | opened {after : Bool} {parameters : Parameters} {rest : List Event}
      (alternates : Alternates true rest after) :
      Alternates false (.acted (.connect parameters) true :: rest) after
  | used {after completed : Bool} {action : Action} {rest : List Event}
      (uses : action.uses = true) (alternates : Alternates true rest after) :
      Alternates true (.acted action completed :: rest) after
  | closed {after completed : Bool} {rest : List Event} (alternates : Alternates false rest after) :
      Alternates true (.acted .close completed :: rest) after

def openings (transcript : List Event) : Nat :=
  transcript.countP Event.opens

def closings (transcript : List Event) : Nat :=
  transcript.countP Event.closes

namespace Alternates

variable {held between after : Bool} {first second transcript : List Event}

theorem append (alternates : Alternates held first between)
    (later : Alternates between second after) :
    Alternates held (first ++ second) after := by
  induction alternates with
  | done => exact later
  | paused _ induction => exact .paused (induction later)
  | refused _ induction => exact .refused (induction later)
  | opened _ induction => exact .opened (induction later)
  | used uses _ induction => exact .used uses (induction later)
  | closed _ induction => exact .closed (induction later)

theorem exists_between (alternates : Alternates held (first ++ second) after) :
    ∃ between, Alternates held first between ∧ Alternates between second after := by
  induction first generalizing held with
  | nil => exact ⟨held, .done, alternates⟩
  | cons event first induction =>
      cases alternates with
      | paused alternates =>
          rcases induction alternates with ⟨between, front, back⟩
          exact ⟨between, .paused front, back⟩
      | refused alternates =>
          rcases induction alternates with ⟨between, front, back⟩
          exact ⟨between, .refused front, back⟩
      | opened alternates =>
          rcases induction alternates with ⟨between, front, back⟩
          exact ⟨between, .opened front, back⟩
      | used uses alternates =>
          rcases induction alternates with ⟨between, front, back⟩
          exact ⟨between, .used uses front, back⟩
      | closed alternates =>
          rcases induction alternates with ⟨between, front, back⟩
          exact ⟨between, .closed front, back⟩

/-- What was open before or opened since was closed since or is open now. -/
theorem count (alternates : Alternates held transcript after) :
    held.toNat + openings transcript = closings transcript + after.toNat := by
  induction alternates with
  | done => simp [openings, closings]
  | paused _ induction =>
      simpa [openings, closings, Event.opens, Event.closes] using induction
  | refused _ induction =>
      simpa [openings, closings, Event.opens, Event.closes] using induction
  | opened _ induction =>
      simp only [openings, closings, Event.opens, Event.closes, List.countP_cons,
        Bool.toNat_true, Bool.toNat_false] at induction ⊢
      simp
      omega
  | @used _ _ action _ uses _ induction =>
      cases action with
      | connect | close => cases uses
      | cursor | execute | leaveCursor | commit | rollback =>
          simpa [openings, closings, Event.opens, Event.closes] using induction
  | closed _ induction =>
      simp only [openings, closings, Event.opens, Event.closes, List.countP_cons,
        Bool.toNat_true, Bool.toNat_false] at induction ⊢
      simp
      omega

end Alternates

/-- The life of connections, as a transcript shows it from the start.  Never is more than
one of those opened not closed yet.  A connection is asked for where there is none, and
every other action stands where there is one; so it is closed once at the most. -/
structure Lifecycle (transcript : List Event) (connected : Bool) : Prop where
  alone : ∀ before after, transcript = before ++ after →
    closings before ≤ openings before ∧ openings before ≤ closings before + 1
  connects : ∀ before parameters completed after,
    transcript = before ++ .acted (.connect parameters) completed :: after →
      openings before = closings before
  acts : ∀ before action completed after, transcript = before ++ .acted action completed :: after →
    (∀ parameters, action ≠ .connect parameters) → openings before = closings before + 1
  closesOnce : ∀ before first between second after,
    transcript = before ++ .acted .close first :: (between ++ .acted .close second :: after) →
      between.any Event.opens = true
  held : connected = true ↔ openings transcript = closings transcript + 1

theorem Alternates.lifecycle {transcript : List Event} {connected : Bool}
    (alternates : Alternates false transcript connected) : Lifecycle transcript connected where
  alone before after shape := by
    rw [shape] at alternates
    rcases alternates.exists_between with ⟨between, front, -⟩
    have counted := front.count
    cases between <;> simp at counted <;> omega
  connects before parameters completed after shape := by
    rw [shape] at alternates
    rcases alternates.exists_between with ⟨between, front, back⟩
    have counted := front.count
    cases back with
    | refused | opened => simpa using counted
    | used uses => cases uses
  acts before action completed after shape other := by
    rw [shape] at alternates
    rcases alternates.exists_between with ⟨between, front, back⟩
    have counted := front.count
    cases back with
    | refused | opened => exact absurd rfl (other _)
    | used | closed => simpa using counted
  closesOnce before first between second after shape := by
    rw [shape] at alternates
    rcases alternates.exists_between with ⟨_, -, back⟩
    cases back with
    | used uses => cases uses
    | closed rest =>
        rcases rest.exists_between with ⟨_, middle, last⟩
        have counted := middle.count
        cases last with
        | used uses => cases uses
        | closed =>
            have some : 0 < openings between := by
              simp at counted
              omega
            rcases List.countP_pos_iff.mp some with ⟨event, member, opens⟩
            exact List.any_eq_true.mpr ⟨event, member, opens⟩
  held := by
    have counted := alternates.count
    cases connected <;> simp at counted ⊢ <;> omega

/-! ## Opening -/

/-- How a connection is opened: refused attempts with pauses between them, and then one
that completed or the last that was refused. -/
inductive Attempts : Dialogue → Bool → Prop
  | refused {parameters : Parameters} {fault : Fault} :
      Attempts [.asked (.connect parameters) (.error fault)] false
  | opened {parameters : Parameters} {answer : Int} :
      Attempts [.asked (.connect parameters) (.ok answer)] true
  | again {parameters : Parameters} {fault : Fault} {seconds : Nat} {rest : Dialogue}
      {completed : Bool} (later : Attempts rest completed) :
      Attempts (.asked (.connect parameters) (.error fault) :: .paused seconds :: rest) completed

/-- A factory of connections, called without one, has one if it returns and none if it
raises. -/
def Opens {State : Type u} (server : Server State) (opening : Session.Opening State) : Prop :=
  ∀ session, session.connected = false →
    ∃ dialogue, Leads server session dialogue (opening session).2 ∧
      Attempts dialogue (opening session).1.isOk ∧
      (opening session).2.connected = (opening session).1.isOk

theorem Attempts.alternates {dialogue : Dialogue} {completed : Bool}
    (attempts : Attempts dialogue completed) : Alternates false dialogue.events completed := by
  induction attempts with
  | refused => exact .refused .done
  | opened => exact .opened .done
  | again _ induction => exact .refused (.paused induction)

theorem Attempts.events_head {dialogue : Dialogue} {completed : Bool}
    (attempts : Attempts dialogue completed) :
    ∃ parameters answered rest,
      dialogue.events = .acted (.connect parameters) answered :: rest := by
  cases attempts with
  | refused | opened | again => exact ⟨_, _, _, rfl⟩

section Factories

variable {State : Type u} (server : Server State) (parameters : Parameters)

variable {server} in
theorem Session.connected_of_act {action : Action} {answer : Except Fault Int}
    {before after : Session State} (acted : before.act server action = (answer, after)) :
    after.connected = before.connected := by
  simp only [act] at acted
  cases acted
  rfl

theorem Session.attempts_attempts (session : Session State) (pauses : List Nat) :
    ∃ dialogue, Leads server session dialogue (session.attempts server parameters pauses).2 ∧
      Attempts dialogue (session.attempts server parameters pauses).1.isOk ∧
      (session.attempts server parameters pauses).2.connected = session.connected := by
  induction pauses generalizing session with
  | nil =>
      rcases acted : session.act server (.connect parameters) with ⟨answer, after⟩
      have kept := connected_of_act acted
      simp only [attempts, acted]
      cases answer with
      | ok answer => exact ⟨_, Leads.act acted, .opened, kept⟩
      | error fault => exact ⟨_, Leads.act acted, .refused, kept⟩
  | cons seconds later induction =>
      rcases acted : session.act server (.connect parameters) with ⟨answer, after⟩
      have kept := connected_of_act acted
      simp only [attempts, acted]
      cases answer with
      | ok answer => exact ⟨_, Leads.act acted, .opened, kept⟩
      | error fault =>
          dsimp only
          split
          · rcases induction (after.pause seconds) with ⟨dialogue, leads, tried, same⟩
            have paused : Leads server after [.paused seconds] (after.pause seconds) :=
              ⟨.paused .silent, rfl⟩
            exact ⟨_, ((Leads.act acted).append paused).append leads, .again tried,
              same.trans kept⟩
          · exact ⟨_, Leads.act acted, .refused, kept⟩

theorem opens_connect : Opens server (Session.connect server parameters) := by
  intro session unconnected
  rcases session.attempts_attempts server parameters pauses with ⟨dialogue, leads, tried, kept⟩
  refine ⟨dialogue, ?_⟩
  simp only [Session.connect]
  split
  · rename_i answered
    rw [answered] at leads tried
    exact ⟨⟨leads.held, leads.written⟩, tried, rfl⟩
  · rename_i answered
    rw [answered] at leads tried kept
    split
    · rcases exists_report parameters _ _ with ⟨refusal, records, reported⟩
      rw [reported]
      exact ⟨⟨leads.held, leads.written⟩, tried, kept.trans unconnected⟩
    · exact ⟨leads, tried, kept.trans unconnected⟩

theorem opens_connectOnce : Opens server (Session.connectOnce server parameters) := by
  intro session unconnected
  rcases acted : session.act server (.connect parameters) with ⟨answer, after⟩
  have leads := Leads.act acted
  have kept := Session.connected_of_act acted
  simp only [Session.connectOnce, acted]
  cases answer with
  | ok answer => exact ⟨_, ⟨leads.held, leads.written⟩, .opened, rfl⟩
  | error fault => exact ⟨_, leads, .refused, kept.trans unconnected⟩

end Factories

/-! ## The parts of a call -/

namespace Exchange

/-- Part of the work over an open connection, which it leaves open. -/
def uses : Exchange → Bool
  | asked action _ => action.uses
  | fetched _ => true
  | paused _ => true

end Exchange

theorem alternates_of_uses {dialogue : Dialogue}
    (uses : ∀ exchange ∈ dialogue, exchange.uses = true) :
    Alternates true dialogue.events true := by
  induction dialogue with
  | nil => exact .done
  | cons exchange rest induction =>
      have first := uses exchange List.mem_cons_self
      have later := induction fun exchange member => uses exchange (List.mem_cons_of_mem _ member)
      cases exchange with
      | asked action answer => exact .used first later
      | fetched rows => exact later
      | paused seconds => exact .paused later

theorem Prepares.uses {statements : List Text} {dialogue : Dialogue} {result : Except Fault Unit}
    (prepares : Prepares statements dialogue result) :
    ∀ exchange ∈ dialogue, exchange.uses = true := by
  induction prepares with
  | done => simp
  | refused => simp [Exchange.uses, Action.uses]
  | sent _ induction => simpa [Exchange.uses, Action.uses] using induction

theorem Warns.uses {dialogue : Dialogue} {answer : Except Fault (List (List Datum))}
    (warns : Warns dialogue answer) : ∀ exchange ∈ dialogue, exchange.uses = true := by
  cases warns <;> simp [Exchange.uses, Action.uses]

theorem Recovers.uses {fault : Fault} {dialogue : Dialogue} {result : Except Fault Outcome}
    (recovery : Recovers fault dialogue result) : ∀ exchange ∈ dialogue, exchange.uses = true := by
  cases recovery with
  | foreign | unwritten => simp
  | untold _ _ warns => exact warns.uses
  | stuck _ _ warns | undone _ _ warns =>
      exact List.forall_mem_append.mpr ⟨warns.uses, by simp [Exchange.uses, Action.uses]⟩

theorem Transacts.uses {statement : Text} {dialogue : Dialogue} {result : Except Fault Outcome}
    (transacts : Transacts statement dialogue result) :
    ∀ exchange ∈ dialogue, exchange.uses = true := by
  cases transacts with
  | refused recovery | uncommitted recovery =>
      simpa [Exchange.uses, Action.uses] using recovery.uses
  | committed => simp [Exchange.uses, Action.uses]

theorem Works.uses {preparation : List Text} {statement : Text} {dialogue : Dialogue}
    {result : Except Fault Outcome} (works : Works preparation statement dialogue result) :
    ∀ exchange ∈ dialogue, exchange.uses = true := by
  cases works with
  | unprepared prepares => exact prepares.uses
  | transacted prepares transacts =>
      exact List.forall_mem_append.mpr ⟨prepares.uses, transacts.uses⟩

namespace Session

variable {State : Type u} (server : Server State)

theorem connected_executeAll (session : Session State) (statements : List Text) :
    (session.executeAll server statements).2.connected = session.connected := by
  induction statements generalizing session with
  | nil => rfl
  | cons statement rest induction =>
      rcases acted : session.act server (.execute statement) with ⟨answer, after⟩
      have kept := connected_of_act acted
      simp only [executeAll, acted]
      cases answer with
      | error fault => exact kept
      | ok count => exact (induction after).trans kept

theorem connected_warnings (session : Session State) :
    (session.warnings server).2.connected = session.connected := by
  rcases acted : session.act server (.execute showWarnings) with ⟨answer, after⟩
  have kept := connected_of_act acted
  simp only [warnings, acted]
  cases answer with
  | error refusal => exact kept
  | ok count => exact kept

theorem connected_failureLines (fault : Fault) (session : Session State) :
    (session.failureLines server fault).2.connected = session.connected := by
  cases first : errorLine fault with
  | error refusal => rw [(failureLines_eq server fault session).1 refusal first]
  | ok line =>
      rcases (failureLines_eq server fault session).2 line first with ⟨-, records, same⟩
      rw [same]
      exact connected_warnings server session

theorem connected_recover (table : Text) (fault : Fault) (session : Session State) :
    (session.recover server table fault).2.connected = session.connected := by
  have diagnosed := session.connected_failureLines server fault
  simp only [recover]
  split
  · split
    · rename_i lines
      rwa [lines] at diagnosed
    · rename_i lines
      rw [lines] at diagnosed
      split
      · rename_i acted
        exact (connected_of_act acted).trans diagnosed
      · rename_i acted
        have kept := (connected_of_act acted).trans diagnosed
        split <;> exact kept
  · rfl

theorem connected_transact (table statement : Text) (session : Session State) :
    (session.transact server table statement).2.connected = session.connected := by
  rcases sent : session.act server (.execute statement) with ⟨answer, after⟩
  have kept := connected_of_act sent
  simp only [transact, sent]
  cases answer with
  | error fault => exact (after.connected_recover server table fault).trans kept
  | ok affected =>
      rcases committed : after.act server .commit with ⟨answer, final⟩
      have same := (connected_of_act committed).trans kept
      simp only [committed]
      cases answer with
      | error fault => exact (final.connected_recover server table fault).trans same
      | ok count => exact same

theorem connected_withinCursor (preparation : List Text) (table statement : Text)
    (session : Session State) :
    (session.withinCursor server preparation table statement).2.connected = session.connected := by
  have kept := session.connected_executeAll server preparation
  simp only [withinCursor]
  split
  · rename_i prepared
    rwa [prepared] at kept
  · rename_i prepared
    rw [prepared] at kept
    exact (connected_transact server table statement _).trans kept

end Session

/-! ## One step -/

section Steps

variable {State : Type u} {server : Server State} {opening : Session.Opening State}

/-- A connection is open after the factory was called where it was called at all. -/
theorem Session.ensureConnected_alternates (opens : Opens server opening)
    (session : Session State) :
    ∃ dialogue, Leads server session dialogue (session.ensureConnected opening).2 ∧
      Alternates session.connected dialogue.events
        (session.ensureConnected opening).2.connected ∧
      (session.ensureConnected opening).2.connected = (session.ensureConnected opening).1.isOk := by
  simp only [ensureConnected]
  split
  · rename_i held
    exact ⟨[], .silent session, .done, held⟩
  · rename_i unheld
    have unconnected : session.connected = false := by simpa using unheld
    rcases opens session unconnected with ⟨dialogue, leads, attempts, connected⟩
    rw [unconnected, connected]
    exact ⟨dialogue, leads, attempts.alternates, rfl⟩

/-- Behind the factory a batch needs nothing but what a connection serves, and leaves the
connection as it is. -/
theorem Session.insert_works (server : Server State) (opening : Session.Opening State)
    (parameters : Parameters) {batch : Batch} {statement : Text}
    (written : batch.statement = .ok statement) (session : Session State) :
    let ready := session.ensureConnected opening
    let after := (session.insert server opening parameters batch).2
    ∃ work, Leads server ready.2 work after ∧ after.connected = ready.2.connected ∧
      (∀ exchange ∈ work, exchange.uses = true) ∧ (ready.1.isOk = false → work = []) := by
  simp only [insert, written]
  rcases session.ensureConnected opening with ⟨result, ready⟩
  cases result with
  | error fault => exact ⟨[], .silent ready, rfl, by simp, fun _ => rfl⟩
  | ok done =>
      rcases opened : ready.act server .cursor with ⟨answer, inside⟩
      simp only [opened]
      cases answer with
      | error fault =>
          exact ⟨_, Leads.act opened, connected_of_act opened,
            by simp [Exchange.uses, Action.uses], by rintro ⟨⟩⟩
      | ok count =>
          rcases withinCursor_works server (preparation parameters batch.rows.length) batch.table
            statement inside with ⟨work, during, works⟩
          have kept := connected_withinCursor server (preparation parameters batch.rows.length)
            batch.table statement inside
          rcases worked : inside.withinCursor server (preparation parameters batch.rows.length)
            batch.table statement with ⟨outcome, finished⟩
          rw [worked] at during kept
          rcases left : finished.act server .leaveCursor with ⟨answer, final⟩
          have same := ((connected_of_act left).trans kept).trans (connected_of_act opened)
          have uses : ∀ exchange ∈ [.asked .cursor (.ok count)] ++ work ++
              [.asked .leaveCursor answer], exchange.uses = true := by
            rw [List.forall_mem_append, List.forall_mem_append, List.forall_mem_singleton,
              List.forall_mem_singleton]
            exact ⟨⟨rfl, works.uses⟩, rfl⟩
          have whole := ((Leads.act opened).append during).append (Leads.act left)
          simp only [worked, left]
          cases answer with
          | error fault => exact ⟨_, whole, same, uses, by rintro ⟨⟩⟩
          | ok answer => exact ⟨_, whole, same, uses, by rintro ⟨⟩⟩

theorem Session.insert_alternates (opens : Opens server opening) (parameters : Parameters)
    (batch : Batch) (session : Session State) :
    ∃ dialogue, Leads server session dialogue (session.insert server opening parameters batch).2 ∧
      Alternates session.connected dialogue.events
        (session.insert server opening parameters batch).2.connected := by
  cases written : batch.statement with
  | error fault =>
      simp only [insert, written]
      exact ⟨[], .silent session, .done⟩
  | ok statement =>
      rcases session.ensureConnected_alternates opens with ⟨connecting, leads, found, ready⟩
      rcases session.insert_works server opening parameters written with
        ⟨work, later, same, uses, idle⟩
      refine ⟨connecting ++ work, leads.append later, ?_⟩
      rw [Dialogue.events_append, same]
      refine found.append ?_
      rw [ready]
      cases returned : (session.ensureConnected opening).1.isOk with
      | false =>
          rw [idle returned]
          exact .done
      | true => exact alternates_of_uses uses

/-- Where there is no connection, a batch that can be written starts with a call of the
factory, and a connection is open afterwards exactly if that returned one. -/
theorem Session.insert_reopens (opens : Opens server opening) (parameters : Parameters)
    {batch : Batch} {statement : Text} (written : batch.statement = .ok statement)
    {session : Session State} (unconnected : session.connected = false) :
    (∃ attempted completed rest,
      (session.insert server opening parameters batch).2.transcript =
        session.transcript ++ .acted (.connect attempted) completed :: rest) ∧
      (session.insert server opening parameters batch).2.connected = (opening session).1.isOk := by
  have calls : session.ensureConnected opening = opening session := by
    simp [ensureConnected, unconnected]
  rcases opens session unconnected with ⟨connecting, leads, attempts, connected⟩
  rcases session.insert_works server opening parameters written with
    ⟨work, later, same, -, -⟩
  rw [calls] at later same
  rcases attempts.events_head with ⟨attempted, completed, rest, first⟩
  refine ⟨⟨attempted, completed, rest ++ work.events, ?_⟩, same.trans connected⟩
  rw [later.written, leads.written, first, List.append_assoc, List.cons_append]

/-- Nothing is left open by closing, whatever the server answers. -/
theorem Session.connected_close (server : Server State) (session : Session State) :
    (session.close server).2.connected = false := by
  simp only [close]
  cases held : session.connected with
  | false => exact held
  | true =>
      rcases session.act server .close with ⟨answer, after⟩
      simp only [if_true]
      cases answer with
      | ok count => rfl
      | error fault =>
          dsimp only
          split
          · split <;> rfl
          · rfl

theorem Session.close_alternates (server : Server State) (session : Session State) :
    ∃ dialogue, Leads server session dialogue (session.close server).2 ∧
      Alternates session.connected dialogue.events (session.close server).2.connected := by
  rw [connected_close]
  simp only [close]
  cases held : session.connected with
  | false => exact ⟨[], .silent session, .done⟩
  | true =>
      rcases acted : session.act server .close with ⟨answer, after⟩
      have leads := Leads.act acted
      refine ⟨[.asked .close answer], ?_, .closed .done⟩
      simp only [if_true]
      cases answer with
      | ok count => exact ⟨leads.held, leads.written⟩
      | error fault =>
          dsimp only
          split
          · split <;> exact ⟨leads.held, leads.written⟩
          · exact ⟨leads.held, leads.written⟩

end Steps

/-! ## Steps one after another -/

/-- What can be done with a destination that is a database.  Entering it as a context does
nothing, and leaving it closes it. -/
inductive Step where
  | execute (batch : Batch)
  | close
  | enter
  | leave

namespace Session

variable {State : Type u} (server : Server State) (opening : Opening State)
  (parameters : Parameters)

def take (session : Session State) : Step → Session State
  | .execute batch => (session.insert server opening parameters batch).2
  | .close | .leave => (session.close server).2
  | .enter => session

def takeAll (steps : List Step) (session : Session State) : Session State :=
  steps.foldl (take server opening parameters) session

variable {server opening}

theorem take_alternates (opens : Opens server opening) (session : Session State) (step : Step) :
    ∃ dialogue, Leads server session dialogue (session.take server opening parameters step) ∧
      Alternates session.connected dialogue.events
        (session.take server opening parameters step).connected := by
  cases step with
  | execute batch => exact session.insert_alternates opens parameters batch
  | close | leave => exact session.close_alternates server
  | enter => exact ⟨[], .silent session, .done⟩

theorem takeAll_alternates (opens : Opens server opening) (steps : List Step)
    (session : Session State) :
    ∃ dialogue, Leads server session dialogue
        (session.takeAll server opening parameters steps) ∧
      Alternates session.connected dialogue.events
        (session.takeAll server opening parameters steps).connected := by
  induction steps generalizing session with
  | nil => exact ⟨[], .silent session, .done⟩
  | cons step rest induction =>
      rcases session.take_alternates parameters opens step with ⟨first, leads, alternates⟩
      rcases induction (session.take server opening parameters step) with
        ⟨second, later, further⟩
      refine ⟨first ++ second, leads.append later, ?_⟩
      rw [Dialogue.events_append]
      exact alternates.append further

end Session

/-- Whatever steps are taken, and whatever is refused meanwhile, connections follow one
after another.  After a closing there is none, and the next batch asks for one; where that
is refused, there is none still. -/
theorem connections_follow_one_another {State : Type u} {server : Server State}
    {opening : Session.Opening State} (opens : Opens server opening) (parameters : Parameters)
    (steps : List Step) (state : State) :
    let session := (Session.start state).takeAll server opening parameters steps
    let released := (session.close server).2
    Lifecycle session.transcript session.connected ∧ released.connected = false ∧
      ∀ idle, idle = released ∨ idle = session ∧ session.connected = false →
        ∀ batch statement, batch.statement = .ok statement →
          let after := (idle.insert server opening parameters batch).2
          (∃ attempted completed rest,
            after.transcript = idle.transcript ++ .acted (.connect attempted) completed :: rest) ∧
          after.connected = (opening idle).1.isOk := by
  intro session released
  rcases (Session.start state).takeAll_alternates parameters opens steps with
    ⟨dialogue, leads, alternates⟩
  have whole : session.transcript = dialogue.events := leads.written
  have empty : released.connected = false := session.connected_close server
  refine ⟨?_, empty, ?_⟩
  · rw [whole]
    exact Alternates.lifecycle alternates
  · intro idle which batch statement written
    have unconnected : idle.connected = false := by
      rcases which with rfl | ⟨rfl, none⟩
      · exact empty
      · exact none
    exact idle.insert_reopens opens parameters written unconnected

/-- A connection that is refused, one that fails while it is closed, and the next one. -/
theorem connection_follows_failed_closing :
    let parameters : Parameters := ⟨"localhost", 3306, "root", "", "shop", "utf8mb4"⟩
    let opening := Session.connect ScriptedServer.server parameters
    let batch : Batch := ⟨"t", [.text "`a`"], [[.text "1"]]⟩
    let broken : Failure := ⟨.system, [.integer 5, .text "io"], none⟩
    let script : ScriptedServer := ⟨1, [], [⟨"connect", 1, broken⟩, ⟨"close", 1, broken⟩]⟩
    let session := (Session.start script).takeAll ScriptedServer.server opening parameters
      [.enter, .execute batch, .execute batch]
    let released := (session.close ScriptedServer.server).2
    let after := (released.insert ScriptedServer.server opening parameters batch).2
    (session.close ScriptedServer.server).1.isOk = false ∧ released.connected = false ∧
      Lifecycle session.transcript session.connected ∧
      (∃ attempted completed rest,
        after.transcript = released.transcript ++ .acted (.connect attempted) completed :: rest) ∧
      openings after.transcript = 2 ∧ closings after.transcript = 1 := by
  intro parameters opening batch broken script session released after
  have written : ∃ statement, batch.statement = .ok statement := ⟨_, rfl⟩
  rcases written with ⟨statement, written⟩
  rcases connections_follow_one_another (opens_connect ScriptedServer.server parameters)
    parameters [.enter, .execute batch, .execute batch] script with ⟨lifecycle, empty, reopens⟩
  exact ⟨by decide, empty, lifecycle, (reopens released (.inl rfl) batch statement written).1,
    by decide, by decide⟩

end Database

end SchemaSeed
