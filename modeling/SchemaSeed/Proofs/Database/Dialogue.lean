import SchemaSeed.Database.Insert

/-! What passes between the client and the server.  A session writes down its actions
and whether they completed; a dialogue holds the answers as well.  For each part of the
work on a batch there is one relation that lists the dialogues it can lead to, together
with the result it then has, so that whatever is said of all calls is said by looking at
these. -/

namespace SchemaSeed

namespace Database

universe u

/-- An action or the fetching of rows, with the answer to it, or a pause. -/
inductive Exchange where
  | asked (action : Action) (answer : Except Fault Int)
  | fetched (answer : Except Fault (List (List Datum)))
  | paused (seconds : Nat)

namespace Exchange

/-- What the transcript of a session keeps of an exchange. -/
def event? : Exchange → Option Event
  | asked action answer => some (.acted action answer.isOk)
  | fetched _ => none
  | paused seconds => some (.paused seconds)

/-- Part of opening a connection. -/
def connects : Exchange → Bool
  | asked (.connect _) _ => true
  | paused _ => true
  | _ => false

end Exchange

abbrev Dialogue := List Exchange

def Dialogue.events (dialogue : Dialogue) : List Event :=
  dialogue.filterMap Exchange.event?

@[simp] theorem Dialogue.events_append (first second : Dialogue) :
    Dialogue.events (first ++ second) = first.events ++ second.events :=
  List.filterMap_append

/-- The answers of a dialogue are those that the server gives in turn. -/
inductive Held {State : Type u} (server : Server State) : State → Dialogue → State → Prop
  | silent {state : State} : Held server state [] state
  | asked {action : Action} {answer : Except Fault Int} {before between after : State}
      {rest : Dialogue} (performed : server.perform action before = (answer, between))
      (held : Held server between rest after) :
      Held server before (.asked action answer :: rest) after
  | fetched {answer : Except Fault (List (List Datum))} {before between after : State}
      {rest : Dialogue} (told : server.fetch before = (answer, between))
      (held : Held server between rest after) :
      Held server before (.fetched answer :: rest) after
  | paused {seconds : Nat} {before after : State} {rest : Dialogue}
      (held : Held server before rest after) :
      Held server before (.paused seconds :: rest) after

theorem Held.append {State : Type u} {server : Server State} {before between after : State}
    {first second : Dialogue} (held : Held server before first between)
    (later : Held server between second after) :
    Held server before (first ++ second) after := by
  induction held with
  | silent => exact later
  | asked performed _ induction => exact .asked performed (induction later)
  | fetched told _ induction => exact .fetched told (induction later)
  | paused _ induction => exact .paused (induction later)

/-- Every answer of a dialogue was given in some state of the server. -/
theorem Held.exists_performed {State : Type u} {server : Server State} {before after : State}
    {dialogue : Dialogue} (held : Held server before dialogue after) {action : Action}
    {answer : Except Fault Int} (member : .asked action answer ∈ dialogue) :
    ∃ state, (server.perform action state).1 = answer := by
  induction held with
  | silent => cases member
  | @asked _ _ state _ _ _ performed _ induction =>
      rcases List.mem_cons.mp member with same | later
      · cases same
        exact ⟨state, congrArg Prod.fst performed⟩
      · exact induction later
  | fetched _ _ induction => exact induction (by simpa using member)
  | paused _ induction => exact induction (by simpa using member)

theorem Held.exists_fetched {State : Type u} {server : Server State} {before after : State}
    {dialogue : Dialogue} (held : Held server before dialogue after)
    {answer : Except Fault (List (List Datum))} (member : .fetched answer ∈ dialogue) :
    ∃ state, (server.fetch state).1 = answer := by
  induction held with
  | silent => cases member
  | asked _ _ induction => exact induction (by simpa using member)
  | @fetched _ state _ _ _ told _ induction =>
      rcases List.mem_cons.mp member with same | later
      · cases same
        exact ⟨state, congrArg Prod.fst told⟩
      · exact induction later
  | paused _ induction => exact induction (by simpa using member)

/-- A dialogue leads from one session to another: the server answered so, and the
transcript was continued by it. -/
structure Leads {State : Type u} (server : Server State) (before : Session State)
    (dialogue : Dialogue) (after : Session State) : Prop where
  held : Held server before.server dialogue after.server
  written : after.transcript = before.transcript ++ dialogue.events

namespace Leads

variable {State : Type u} {server : Server State} {before between after : Session State}

theorem silent (session : Session State) : Leads server session [] session :=
  ⟨.silent, by simp [Dialogue.events]⟩

theorem append {first second : Dialogue} (leads : Leads server before first between)
    (later : Leads server between second after) : Leads server before (first ++ second) after where
  held := leads.held.append later.held
  written := by simp [later.written, leads.written]

theorem act {action : Action} {answer : Except Fault Int}
    (acted : before.act server action = (answer, after)) :
    Leads server before [.asked action answer] after := by
  simp only [Session.act] at acted
  cases acted
  exact ⟨.asked rfl .silent, rfl⟩

theorem fetch {answer : Except Fault (List (List Datum))}
    (fetched : before.fetch server = (answer, after)) :
    Leads server before [.fetched answer] after := by
  simp only [Session.fetch] at fetched
  cases fetched
  exact ⟨.fetched rfl .silent, (List.append_nil _).symm⟩

end Leads

/-! ## Opening the connection -/

/-- Opening the connection asks the server for nothing but a connection. -/
def OnlyConnects {State : Type u} (server : Server State) (opening : Session.Opening State) :
    Prop :=
  ∀ session, ∃ dialogue, Leads server session dialogue (opening session).2 ∧
    ∀ exchange ∈ dialogue, Exchange.connects exchange = true

section Opening

variable {State : Type u} (server : Server State) (parameters : Parameters)

theorem attempts_connect (session : Session State) (pauses : List Nat) :
    ∃ dialogue, Leads server session dialogue (session.attempts server parameters pauses).2 ∧
      ∀ exchange ∈ dialogue, Exchange.connects exchange = true := by
  induction pauses generalizing session with
  | nil =>
      exact ⟨[.asked (.connect parameters) _], Leads.act rfl, by simp [Exchange.connects]⟩
  | cons seconds later induction =>
      rcases acted : session.act server (.connect parameters) with ⟨answer, after⟩
      have first := Leads.act acted
      simp only [Session.attempts, acted]
      cases answer with
      | ok count => exact ⟨_, first, by simp [Exchange.connects]⟩
      | error fault =>
          simp only
          split
          · rcases induction (after.pause seconds) with ⟨dialogue, leads, connecting⟩
            have paused : Leads server after [.paused seconds] (after.pause seconds) :=
              ⟨.paused .silent, rfl⟩
            refine ⟨_, (first.append paused).append leads, ?_⟩
            intro exchange member
            rcases List.mem_append.mp member with before | after
            · simp only [List.cons_append, List.nil_append, List.mem_cons, List.not_mem_nil,
                or_false] at before
              rcases before with rfl | rfl <;> rfl
            · exact connecting exchange after
          · exact ⟨_, first, by simp [Exchange.connects]⟩

/-- A report changes nothing but what is to be logged. -/
theorem exists_report (fault : Fault) (session : Session State) :
    ∃ refusal records, session.report parameters fault =
      (.error refusal, { session with records := records }) := by
  unfold Session.report
  split
  · dsimp only
    split
    · exact ⟨_, _, rfl⟩
    · exact ⟨_, _, rfl⟩
  · exact ⟨_, session.records, rfl⟩

theorem onlyConnects_connect : OnlyConnects server (Session.connect server parameters) := by
  intro session
  rcases attempts_connect server parameters session pauses with ⟨dialogue, leads, connecting⟩
  refine ⟨dialogue, ?_, connecting⟩
  simp only [Session.connect]
  split
  · rename_i tried
    rw [tried] at leads
    exact ⟨leads.held, leads.written⟩
  · rename_i tried
    rw [tried] at leads
    split
    · rcases exists_report parameters _ _ with ⟨refusal, records, reported⟩
      rw [reported]
      exact ⟨leads.held, leads.written⟩
    · exact leads

end Opening

/-! ## The parts of a call -/

/-- The statements that prepare a batch are sent up to the first that is refused. -/
inductive Prepares : List Text → Dialogue → Except Fault Unit → Prop
  | done : Prepares [] [] (.ok ())
  | refused {statement : Text} {rest : List Text} {fault : Fault} :
      Prepares (statement :: rest) [.asked (.execute statement) (.error fault)] (.error fault)
  | sent {statement : Text} {rest : List Text} {count : Int} {dialogue : Dialogue}
      {result : Except Fault Unit} (later : Prepares rest dialogue result) :
      Prepares (statement :: rest) (.asked (.execute statement) (.ok count) :: dialogue) result

/-- The warnings of the server are asked for and, unless that is refused, fetched. -/
inductive Warns : Dialogue → Except Fault (List (List Datum)) → Prop
  | refused {refusal : Fault} :
      Warns [.asked (.execute showWarnings) (.error refusal)] (.error refusal)
  | fetched {count : Int} {answer : Except Fault (List (List Datum))} :
      Warns [.asked (.execute showWarnings) (.ok count), .fetched answer] answer

/-- The lines on a failure, behind the one on its error, by the answer to the request for the
warnings.  A refusal by the database leaves that one line, but only if the refusal itself
can be written. -/
def linesWith (line : Text) : Except Fault (List (List Datum)) → Except Fault (List Text)
  | .ok warnings => detailLines line warnings
  | .error refusal =>
      if refusal.isDatabase then refusal.text.map fun _ => [line] else .error refusal

/-- A failed transaction is diagnosed and rolled back, if it failed in the database and can be
reported.  Nothing is asked if the line on the error cannot be written, and nothing is
rolled back if the other lines cannot. -/
inductive Recovers (fault : Fault) : Dialogue → Except Fault Outcome → Prop
  | foreign (foreign : fault.isDatabase = false) : Recovers fault [] (.error fault)
  | unwritten {refusal : Fault} (database : fault.isDatabase = true)
      (first : errorLine fault = .error refusal) : Recovers fault [] (.error refusal)
  | untold {asking : Dialogue} {answer : Except Fault (List (List Datum))} {line : Text}
      {refusal : Fault} (database : fault.isDatabase = true)
      (first : errorLine fault = .ok line) (warns : Warns asking answer)
      (unwritten : linesWith line answer = .error refusal) :
      Recovers fault asking (.error refusal)
  | stuck {asking : Dialogue} {answer : Except Fault (List (List Datum))} {line : Text}
      {lines : List Text} {refusal : Fault} (database : fault.isDatabase = true)
      (first : errorLine fault = .ok line) (warns : Warns asking answer)
      (written : linesWith line answer = .ok lines) :
      Recovers fault (asking ++ [.asked .rollback (.error refusal)]) (.error refusal)
  | undone {asking : Dialogue} {answer : Except Fault (List (List Datum))} {line : Text}
      {lines : List Text} {count : Int} (database : fault.isDatabase = true)
      (first : errorLine fault = .ok line) (warns : Warns asking answer)
      (written : linesWith line answer = .ok lines) :
      Recovers fault (asking ++ [.asked .rollback (.ok count)])
        (.ok ⟨false, Text.join "\n" lines⟩)

/-- The statement is sent and committed; where either fails, recovery follows. -/
inductive Transacts (statement : Text) : Dialogue → Except Fault Outcome → Prop
  | refused {fault : Fault} {dialogue : Dialogue} {result : Except Fault Outcome}
      (recovery : Recovers fault dialogue result) :
      Transacts statement (.asked (.execute statement) (.error fault) :: dialogue) result
  | uncommitted {affected : Int} {fault : Fault} {dialogue : Dialogue}
      {result : Except Fault Outcome} (recovery : Recovers fault dialogue result) :
      Transacts statement
        (.asked (.execute statement) (.ok affected) :: .asked .commit (.error fault) :: dialogue)
        result
  | committed {affected count : Int} :
      Transacts statement
        [.asked (.execute statement) (.ok affected), .asked .commit (.ok count)]
        (success affected)

/-- What is done while a cursor is open. -/
inductive Works (preparation : List Text) (statement : Text) :
    Dialogue → Except Fault Outcome → Prop
  | unprepared {dialogue : Dialogue} {fault : Fault}
      (prepares : Prepares preparation dialogue (.error fault)) :
      Works preparation statement dialogue (.error fault)
  | transacted {preparing transaction : Dialogue} {result : Except Fault Outcome}
      (prepares : Prepares preparation preparing (.ok ()))
      (transacts : Transacts statement transaction result) :
      Works preparation statement (preparing ++ transaction) result

/-- A refusal to let the cursor be left is all that a call answers then. -/
def onLeaving (left : Except Fault Int) (result : Except Fault Outcome) : Except Fault Outcome :=
  match left with
  | .error fault => .error fault
  | .ok _ => result

/-- Everything that the delivery of a batch can do. -/
inductive Calls (parameters : Parameters) (batch : Batch) :
    Dialogue → Except Fault Outcome → Prop
  | unwritable {fault : Fault} (unwritten : batch.statement = .error fault) :
      Calls parameters batch [] (.error fault)
  | unconnected {statement : Text} {connecting : Dialogue} {fault : Fault}
      (written : batch.statement = .ok statement)
      (connects : ∀ exchange ∈ connecting, Exchange.connects exchange = true) :
      Calls parameters batch connecting (.error fault)
  | cursorless {statement : Text} {connecting : Dialogue} {fault : Fault}
      (written : batch.statement = .ok statement)
      (connects : ∀ exchange ∈ connecting, Exchange.connects exchange = true) :
      Calls parameters batch (connecting ++ [.asked .cursor (.error fault)]) (.error fault)
  | worked {statement : Text} {connecting work : Dialogue} {count : Int}
      {left : Except Fault Int} {result : Except Fault Outcome}
      (written : batch.statement = .ok statement)
      (connects : ∀ exchange ∈ connecting, Exchange.connects exchange = true)
      (works : Works (preparation parameters batch.rows.length) statement work result) :
      Calls parameters batch
        (connecting ++ .asked .cursor (.ok count) :: work ++ [.asked .leaveCursor left])
        (onLeaving left result)

/-! ## What can be written -/

theorem bars_cases (values : List Datum) :
    (Datum.areWritable values = true ∧ ∃ line, bars values = .ok line) ∨
      (Datum.areWritable values = false ∧ bars values = .error .numberTooLong) := by
  rw [bars]
  cases Datum.areWritable values with
  | true => exact .inl ⟨rfl, _, rfl⟩
  | false => exact .inr ⟨rfl, rfl⟩

/-- An error of the database is written as a line if, and only if, it is written as a text. -/
theorem errorLine_cases {fault : Fault} (database : fault.isDatabase = true) :
    (∃ sentence line, fault.text = .ok sentence ∧ errorLine fault = .ok line) ∨
      (fault.text = .error .numberTooLong ∧ errorLine fault = .error .numberTooLong) := by
  rcases Fault.exists_failure_of_isDatabase database with ⟨failure, kind, rfl, known⟩
  have same : (Fault.failed failure).arguments = failure.arguments := rfl
  rw [errorLine, same, Fault.text_of_database known]
  rcases bars_cases failure.arguments with ⟨writable, line, written⟩ | ⟨unwritable, written⟩
  · rw [written, writable]
    cases line with
    | nil => exact .inl ⟨_, _, rfl, rfl⟩
    | cons first rest => exact .inl ⟨_, _, rfl, rfl⟩
  · rw [written, unwritable]
    exact .inr ⟨rfl, rfl⟩

theorem mapM_bars_cases (rows : List (List Datum)) :
    (rows.all Datum.areWritable = true ∧ ∃ lines, rows.mapM bars = .ok lines) ∨
      (rows.all Datum.areWritable = false ∧ rows.mapM bars = .error .numberTooLong) := by
  induction rows with
  | nil => exact .inl ⟨rfl, [], rfl⟩
  | cons row rest induction =>
      rw [List.all_cons, List.mapM_cons]
      rcases bars_cases row with ⟨writable, line, written⟩ | ⟨unwritable, written⟩
      · rw [writable, written, Bool.true_and]
        rcases induction with ⟨others, lines, told⟩ | ⟨others, told⟩
        · rw [others, told]
          exact .inl ⟨rfl, _, rfl⟩
        · rw [others, told]
          exact .inr ⟨rfl, rfl⟩
      · rw [unwritable, written]
        exact .inr ⟨rfl, rfl⟩

/-- Whether the answer to a request for the warnings can be written. -/
def isTellable : Except Fault (List (List Datum)) → Bool
  | .ok rows => rows.all Datum.areWritable
  | .error refusal => refusal.text.isOk

/-- The line on the error comes first, and there are lines if the warnings can be written. -/
theorem linesWith_cases (line : Text) {answer : Except Fault (List (List Datum))}
    (database : ∀ refusal, answer = .error refusal → refusal.isDatabase = true) :
    (isTellable answer = true ∧ ∃ more, linesWith line answer = .ok (line :: more)) ∨
      (isTellable answer = false ∧ linesWith line answer = .error .numberTooLong) := by
  cases answer with
  | ok rows =>
      rw [isTellable, linesWith, detailLines]
      rcases mapM_bars_cases rows with ⟨writable, lines, told⟩ | ⟨unwritable, told⟩
      · rw [told]
        exact .inl ⟨writable, lines, rfl⟩
      · rw [told]
        exact .inr ⟨unwritable, rfl⟩
  | error refusal =>
      have known := database refusal rfl
      rw [isTellable, linesWith, known]
      rcases errorLine_cases known with ⟨sentence, -, written, -⟩ | ⟨unwritten, -⟩
      · rw [written]
        exact .inl ⟨rfl, [], rfl⟩
      · rw [unwritten]
        exact .inr ⟨rfl, rfl⟩

theorem exists_cons_of_linesWith {line : Text} {answer : Except Fault (List (List Datum))}
    {lines : List Text} (written : linesWith line answer = .ok lines) :
    ∃ more, lines = line :: more := by
  cases answer with
  | ok rows =>
      rw [linesWith, detailLines] at written
      cases told : rows.mapM bars with
      | error refusal =>
          rw [told] at written
          cases written
      | ok more =>
          rw [told] at written
          exact ⟨more, (Except.ok.inj written).symm⟩
  | error refusal =>
      rw [linesWith] at written
      split at written
      · cases told : refusal.text with
        | error unwritten =>
            rw [told] at written
            cases written
        | ok sentence =>
            rw [told] at written
            exact ⟨[], (Except.ok.inj written).symm⟩
      · cases written

namespace Session

variable {State : Type u} (server : Server State)

theorem executeAll_prepares (session : Session State) (statements : List Text) :
    ∃ dialogue, Leads server session dialogue (session.executeAll server statements).2 ∧
      Prepares statements dialogue (session.executeAll server statements).1 := by
  induction statements generalizing session with
  | nil => exact ⟨[], .silent session, .done⟩
  | cons statement rest induction =>
      rcases acted : session.act server (.execute statement) with ⟨answer, after⟩
      simp only [executeAll, acted]
      cases answer with
      | error fault => exact ⟨_, Leads.act acted, .refused⟩
      | ok count =>
          rcases induction after with ⟨dialogue, leads, prepares⟩
          exact ⟨_, (Leads.act acted).append leads, .sent prepares⟩

theorem warnings_warns (session : Session State) :
    ∃ asking, Leads server session asking (session.warnings server).2 ∧
      Warns asking (session.warnings server).1 := by
  rcases acted : session.act server (.execute showWarnings) with ⟨answer, after⟩
  have asked := Leads.act acted
  simp only [warnings, acted]
  cases answer with
  | error refusal => exact ⟨_, asked, .refused⟩
  | ok count => exact ⟨_, asked.append (Leads.fetch rfl), .fetched⟩

/-- Without a line on the error nothing is asked.  With it, the lines depend on the warnings,
and nothing but the records is changed beside. -/
theorem failureLines_eq (fault : Fault) (session : Session State) :
    (∀ refusal, errorLine fault = .error refusal →
      session.failureLines server fault = (.error refusal, session)) ∧
    ∀ line, errorLine fault = .ok line →
      (session.failureLines server fault).1 = linesWith line (session.warnings server).1 ∧
      ∃ records, (session.failureLines server fault).2 =
        { (session.warnings server).2 with records := records } := by
  constructor
  · intro refusal first
    rw [failureLines, first]
  · intro line first
    rcases asked : session.warnings server with ⟨answer, after⟩
    simp only [failureLines, first, asked, linesWith]
    cases answer with
    | ok warnings => exact ⟨rfl, _, rfl⟩
    | error refusal =>
        dsimp only
        split
        · cases refusal.text <;> exact ⟨rfl, _, rfl⟩
        · exact ⟨rfl, _, rfl⟩

/-- An error that cannot be written ends the recovery before it begins. -/
theorem recover_of_unwritten (table : Text) {fault refusal : Fault}
    (database : fault.isDatabase = true) (first : errorLine fault = .error refusal)
    (session : Session State) :
    session.recover server table fault = (.error refusal, session) := by
  simp only [recover, database, if_true,
    (failureLines_eq server fault session).1 refusal first]

theorem recover_recovers (table : Text) (fault : Fault) (session : Session State) :
    ∃ dialogue, Leads server session dialogue (session.recover server table fault).2 ∧
      Recovers fault dialogue (session.recover server table fault).1 := by
  cases database : fault.isDatabase with
  | false =>
      simp only [recover, database, Bool.false_eq_true, if_false]
      exact ⟨[], .silent session, .foreign database⟩
  | true =>
      cases first : errorLine fault with
      | error refusal =>
          rw [recover_of_unwritten server table database first]
          exact ⟨[], .silent session, .unwritten database first⟩
      | ok line =>
          rcases warnings_warns server session with ⟨asking, asked, warns⟩
          rcases (failureLines_eq server fault session).2 line first with ⟨told, records, same⟩
          have leads : Leads server session asking (session.failureLines server fault).2 := by
            rw [same]
            exact ⟨asked.held, asked.written⟩
          have shown : ∃ sentence, fault.text = .ok sentence := by
            rcases errorLine_cases database with ⟨sentence, -, shown, -⟩ | ⟨-, unwritten⟩
            · exact ⟨sentence, shown⟩
            · cases first.symm.trans unwritten
          rcases shown with ⟨sentence, shown⟩
          simp only [recover, database, if_true, shown]
          rcases answered : session.failureLines server fault with ⟨lines, after⟩
          rw [answered] at leads told
          cases lines with
          | error refusal => exact ⟨asking, leads, .untold database first warns told.symm⟩
          | ok lines =>
              rcases acted : after.act server .rollback with ⟨answer, final⟩
              have rolledBack := leads.append (Leads.act acted)
              simp only [acted]
              cases answer with
              | error refusal => exact ⟨_, rolledBack, .stuck database first warns told.symm⟩
              | ok count =>
                  exact ⟨_, ⟨rolledBack.held, rolledBack.written⟩,
                    .undone database first warns told.symm⟩

theorem transact_transacts (table statement : Text) (session : Session State) :
    ∃ dialogue, Leads server session dialogue (session.transact server table statement).2 ∧
      Transacts statement dialogue (session.transact server table statement).1 := by
  rcases sent : session.act server (.execute statement) with ⟨answer, after⟩
  simp only [transact, sent]
  cases answer with
  | error fault =>
      rcases recover_recovers server table fault after with ⟨dialogue, leads, recovery⟩
      exact ⟨_, (Leads.act sent).append leads, .refused recovery⟩
  | ok affected =>
      rcases committed : after.act server .commit with ⟨answer, final⟩
      simp only [committed]
      have leads := (Leads.act sent).append (Leads.act committed)
      cases answer with
      | error fault =>
          rcases recover_recovers server table fault final with ⟨dialogue, later, recovery⟩
          exact ⟨_, leads.append later, .uncommitted recovery⟩
      | ok count =>
          dsimp only
          exact ⟨_, leads, .committed⟩

theorem withinCursor_works (preparation : List Text) (table statement : Text)
    (session : Session State) :
    ∃ dialogue,
      Leads server session dialogue (session.withinCursor server preparation table statement).2 ∧
      Works preparation statement dialogue
        (session.withinCursor server preparation table statement).1 := by
  rcases executeAll_prepares server session preparation with ⟨preparing, leads, prepares⟩
  simp only [withinCursor]
  rcases prepared : session.executeAll server preparation with ⟨result, after⟩
  rw [prepared] at leads prepares
  cases result with
  | error fault => exact ⟨preparing, leads, .unprepared prepares⟩
  | ok done =>
      rcases transact_transacts server table statement after with ⟨transaction, later, transacts⟩
      exact ⟨_, leads.append later, .transacted prepares transacts⟩

variable {server}

theorem ensureConnected_connects {opening : Opening State} (honest : OnlyConnects server opening)
    (session : Session State) :
    ∃ dialogue, Leads server session dialogue (session.ensureConnected opening).2 ∧
      ∀ exchange ∈ dialogue, Exchange.connects exchange = true := by
  simp only [ensureConnected]
  split
  · exact ⟨[], .silent session, by simp⟩
  · exact honest session

/-- The delivery of a batch leads to one of the dialogues listed for it. -/
theorem insert_calls {opening : Opening State} (honest : OnlyConnects server opening)
    (parameters : Parameters) (batch : Batch) (session : Session State) :
    ∃ dialogue, Leads server session dialogue (session.insert server opening parameters batch).2 ∧
      Calls parameters batch dialogue (session.insert server opening parameters batch).1 := by
  simp only [insert]
  cases written : batch.statement with
  | error fault => exact ⟨[], .silent session, .unwritable written⟩
  | ok statement =>
      rcases ensureConnected_connects honest session with ⟨connecting, leads, connects⟩
      rcases connected : session.ensureConnected opening with ⟨result, ready⟩
      rw [connected] at leads
      cases result with
      | error fault => exact ⟨connecting, leads, .unconnected written connects⟩
      | ok done =>
          rcases opened : ready.act server .cursor with ⟨answer, inside⟩
          simp only [opened]
          have begun := leads.append (Leads.act opened)
          cases answer with
          | error fault => exact ⟨_, begun, .cursorless written connects⟩
          | ok count =>
              rcases withinCursor_works server (preparation parameters batch.rows.length)
                batch.table statement inside with ⟨work, during, works⟩
              rcases worked : inside.withinCursor server
                (preparation parameters batch.rows.length) batch.table statement with
                ⟨outcome, finished⟩
              rw [worked] at during works
              rcases left : finished.act server .leaveCursor with ⟨answer, final⟩
              have whole := (begun.append during).append (Leads.act left)
              rw [List.append_assoc connecting, List.singleton_append] at whole
              have called := @Calls.worked _ _ _ _ _ count answer _ written connects works
              simp only [worked, left]
              cases answer with
              | error fault => exact ⟨_, whole, called⟩
              | ok count => exact ⟨_, whole, called⟩

end Session

end Database

end SchemaSeed
