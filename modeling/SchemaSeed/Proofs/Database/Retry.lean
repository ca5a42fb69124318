import SchemaSeed.Proofs.Database.Dialogue
import SchemaSeed.Proofs.Decimal.Natural

/-! Opening a connection with patience, whatever the server answers.  The policy is said on
its own: how often to try, how long to wait, and after which errors.  The attempts are a run
of it, and what they come to depends on the last answer alone. -/

namespace SchemaSeed

namespace Database

universe u

/-! ## Answers in a row -/

/-- An answer after which another attempt may help. -/
def mayPass : Except Fault Int → Bool
  | .ok _ => false
  | .error fault => isOperational fault

/-- What a server answers to attempts to connect, one after the other. -/
def outcomes {State : Type u} (server : Server State) (parameters : Parameters) (state : State) :
    Nat → Except Fault Int
  | 0 => (server.perform (.connect parameters) state).1
  | number + 1 => outcomes server parameters (server.perform (.connect parameters) state).2 number

/-- A server that answers what it is told to. -/
def told : Server (Nat → Except Fault Int) where
  perform _ answers := (answers 0, fun number => answers (number + 1))
  fetch answers := (.ok [], answers)

/-- The number of the first answer with which the matter is settled. -/
structure Settles (answers : Nat → Except Fault Int) (first : Nat) : Prop where
  settled : mayPass (answers first) = false
  passing : ∀ earlier, earlier < first → mayPass (answers earlier) = true

/-! ## Policies -/

/-- When an action is tried again: whether so many attempts are enough, the seconds to wait
after them, and the answers that call for another one. -/
structure Retrying where
  stops : Nat → Bool
  wait : Nat → Nat
  retries : Except Fault Int → Bool

/-- Three attempts; pauses that double, of one second at least and of ten at most; again
only after operational errors. -/
def patience : Retrying where
  stops attempts := decide (3 ≤ attempts)
  wait attempts := max 1 (min (Nat.pow 2 (attempts - 1)) 10)
  retries := mayPass

namespace Retrying

/-- The runs of a policy from an attempt on.  The last answer is the one that counts. -/
inductive Run {State : Type u} (policy : Retrying) (server : Server State) (action : Action) :
    Nat → Session State → Except Fault Int → Session State → Prop
  | settled {number : Nat} {session after : Session State} {answer : Except Fault Int}
      (acted : session.act server action = (answer, after))
      (kept : policy.retries answer = false) :
      Run policy server action number session answer after
  | stopped {number : Nat} {session after : Session State} {answer : Except Fault Int}
      (acted : session.act server action = (answer, after))
      (again : policy.retries answer = true) (enough : policy.stops number = true) :
      Run policy server action number session answer after
  | again {number : Nat} {session between after : Session State}
      {refusal answer : Except Fault Int}
      (acted : session.act server action = (refusal, between))
      (again : policy.retries refusal = true) (goes : policy.stops number = false)
      (later : Run policy server action (number + 1) (between.pause (policy.wait number)) answer
        after) :
      Run policy server action number session answer after

/-- The pauses that a policy allows from an attempt on. -/
def Plans (policy : Retrying) : Nat → List Nat → Prop
  | number, [] => policy.stops number = true
  | number, seconds :: later =>
      policy.stops number = false ∧ policy.wait number = seconds ∧ policy.Plans (number + 1) later

theorem plans_patience : patience.Plans 1 pauses :=
  ⟨rfl, rfl, rfl, rfl, rfl⟩

/-- A policy leaves nothing open. -/
theorem Run.unique {State : Type u} {policy : Retrying} {server : Server State} {action : Action}
    {number : Nat} {session after other : Session State} {answer reply : Except Fault Int}
    (run : policy.Run server action number session answer after)
    (second : policy.Run server action number session reply other) :
    reply = answer ∧ other = after := by
  induction run with
  | settled acted kept =>
      cases second with
      | settled again _ =>
          rcases Prod.mk.inj (acted.symm.trans again) with ⟨rfl, rfl⟩
          exact ⟨rfl, rfl⟩
      | stopped again retries _ | again again retries _ _ =>
          rcases Prod.mk.inj (acted.symm.trans again) with ⟨rfl, rfl⟩
          cases kept.symm.trans retries
  | stopped acted retries enough =>
      cases second with
      | settled again kept =>
          rcases Prod.mk.inj (acted.symm.trans again) with ⟨rfl, rfl⟩
          cases kept.symm.trans retries
      | stopped again _ _ =>
          rcases Prod.mk.inj (acted.symm.trans again) with ⟨rfl, rfl⟩
          exact ⟨rfl, rfl⟩
      | again _ _ goes _ => cases goes.symm.trans enough
  | again acted retries goes _ induction =>
      cases second with
      | settled again kept =>
          rcases Prod.mk.inj (acted.symm.trans again) with ⟨rfl, rfl⟩
          cases kept.symm.trans retries
      | stopped _ _ enough => cases goes.symm.trans enough
      | again again _ _ later =>
          rcases Prod.mk.inj (acted.symm.trans again) with ⟨rfl, rfl⟩
          exact induction later

end Retrying

/-! ## Attempts -/

/-- Refused attempts with a pause after each of them, and the last attempt. -/
def course (parameters : Parameters) (pauses : List Nat) (answer : Except Fault Int) :
    List Event :=
  pauses.flatMap (fun seconds => [.acted (.connect parameters) false, .paused seconds]) ++
    [.acted (.connect parameters) answer.isOk]

section Attempts

variable {State : Type u} (server : Server State) (parameters : Parameters)

theorem attempts_cons (session : Session State) (seconds : Nat) (later : List Nat) :
    session.attempts server parameters (seconds :: later) =
      let tried := session.act server (.connect parameters)
      if mayPass tried.1 then (tried.2.pause seconds).attempts server parameters later
      else tried := by
  rcases acted : session.act server (.connect parameters) with ⟨answer, after⟩
  simp only [Session.attempts, acted]
  cases answer with
  | ok answer => rfl
  | error fault => rfl

/-- Attempts whose pauses are those of a policy are a run of it. -/
theorem run_attempts {policy : Retrying} (retries : policy.retries = mayPass) {number : Nat}
    {pauses : List Nat} (plans : policy.Plans number pauses) (session : Session State) :
    policy.Run server (.connect parameters) number session
      (session.attempts server parameters pauses).1
      (session.attempts server parameters pauses).2 := by
  induction pauses generalizing number session with
  | nil =>
      cases again : policy.retries (session.act server (.connect parameters)).1 with
      | false => exact .settled rfl again
      | true => exact .stopped rfl again plans
  | cons seconds later induction =>
      rcases plans with ⟨goes, rfl, plans⟩
      rcases acted : session.act server (.connect parameters) with ⟨answer, after⟩
      rw [attempts_cons, acted, ← retries]
      dsimp only
      split
      · rename_i again
        exact .again acted again goes (induction plans _)
      · rename_i settled
        exact .settled acted (eq_false_of_ne_true settled)

theorem act_connect (session : Session State) :
    (session.act server (.connect parameters)).1 =
        outcomes server parameters session.server 0 ∧
      (session.act server (.connect parameters)).2.transcript = session.transcript ++
        [.acted (.connect parameters) (outcomes server parameters session.server 0).isOk] ∧
      ∀ number,
        outcomes server parameters (session.act server (.connect parameters)).2.server number =
          outcomes server parameters session.server (number + 1) :=
  ⟨rfl, rfl, fun _ => rfl⟩

theorem isOk_of_mayPass {answer : Except Fault Int} (again : mayPass answer = true) :
    answer.isOk = false := by
  cases answer with
  | ok answer => cases again
  | error fault => rfl

/-- Attempts end with the first answer that settles the matter, or with the pauses. -/
theorem exists_attempts (session : Session State) (pauses : List Nat) :
    let answers := outcomes server parameters session.server
    let tried := session.attempts server parameters pauses
    ∃ made ≤ pauses.length,
      (∀ earlier < made, mayPass (answers earlier) = true) ∧
      (made < pauses.length → mayPass (answers made) = false) ∧
      tried.1 = answers made ∧
      tried.2.transcript =
        session.transcript ++ course parameters (pauses.take made) (answers made) := by
  induction pauses generalizing session with
  | nil => exact ⟨0, Nat.le_refl 0, nofun, nofun, rfl, rfl⟩
  | cons seconds later induction =>
      rcases act_connect server parameters session with ⟨answered, written, others⟩
      rw [attempts_cons]
      dsimp only
      cases again : mayPass (outcomes server parameters session.server 0) with
      | false =>
          rw [answered, again, if_neg Bool.false_ne_true]
          exact ⟨0, Nat.zero_le _, nofun, fun _ => again, answered, written⟩
      | true =>
          rw [answered, again, if_pos rfl]
          rcases induction ((session.act server (.connect parameters)).2.pause seconds) with
            ⟨made, bound, passing, settled, ends, continued⟩
          refine ⟨made + 1, Nat.succ_le_succ bound, ?_, ?_, ends, ?_⟩
          · rintro (_ | earlier) within
            · exact again
            · exact passing earlier (Nat.lt_of_succ_lt_succ within)
          · exact fun within => settled (Nat.lt_of_succ_lt_succ within)
          · rw [continued]
            simp only [Session.pause, written, isOk_of_mayPass again, course, List.take_succ_cons,
              List.flatMap_cons, List.append_assoc, List.cons_append, List.nil_append]
            rfl

end Attempts

/-! ## What comes of the last attempt -/

/-- What stands for a value in a sentence: nothing does for a number of too many digits, or
for what holds one. -/
def written? (value : Datum) : Option Text :=
  if value.isWritable then some value.plain else none

/-- The text of a fault with all of its arguments. -/
def wholeText? (fault : Fault) : Option Text :=
  if Datum.areWritable fault.arguments then some fault.message else none

/-- A refused connection is reported in a sentence with the message and the number of an
error.  If one of them cannot be written, that takes the place of the report. -/
def Explains (result : Except Fault Unit) : Option Text → Option Text → Prop
  | some message, some number =>
      ∃ refusal, result = .error refusal ∧ refusal.label = "SinkError" ∧
        refusal.message =
          "Database connection failed: " ++ message ++ " (error number: " ++ number ++ ")"
  | _, _ => result = .error .numberTooLong

/-- The result of opening a connection, by the answer to the last attempt. -/
structure Concludes (answer : Except Fault Int) (result : Except Fault Unit) (connected : Bool) :
    Prop where
  opened : ∀ count, answer = .ok count → result = .ok () ∧ connected = true
  numbered : ∀ fault code message others, answer = .error fault → fault.isDatabase = true →
    fault.arguments = code :: message :: others →
    Explains result (written? message) (written? code)
  short : ∀ fault, answer = .error fault → fault.isDatabase = true →
    fault.arguments.length < 2 →
    Explains result (wholeText? fault) (written? (fault.arguments.headD .null))
  passed : ∀ fault, answer = .error fault → fault.isDatabase = false → result = .error fault

section Report

variable {State : Type u} (parameters : Parameters) {fault : Fault} (session : Session State)

theorem report_of_reportable (reportable : isReportable fault = true) :
    (session.report parameters fault).1 =
      .error (.connectionFailed (errorMessage fault) (errorCode fault).plain) := by
  have message : hasMessage fault = true := by
    unfold isReportable at reportable
    unfold hasMessage
    split
    · rename_i only shape
      simpa [shape, Datum.areWritable] using reportable
    · rfl
  rw [Session.report, if_pos message]
  simp only [reportable, if_true]

theorem report_of_unreportable (unreportable : isReportable fault = false) :
    (session.report parameters fault).1 = .error .numberTooLong := by
  unfold Session.report
  split
  · simp only [unreportable, Bool.false_eq_true, if_false]
  · rfl

/-- Message and number are put into the sentence as far as both of them can be written. -/
theorem explains_report {message : Option Text} {number : Option Text}
    (reportable : isReportable fault = (message.isSome && number.isSome))
    (sameMessage : ∀ text, message = some text → text = errorMessage fault)
    (sameNumber : ∀ text, number = some text → text = (errorCode fault).plain) :
    Explains (session.report parameters fault).1 message number := by
  match message, number with
  | some message, some number =>
      rw [sameMessage message rfl, sameNumber number rfl]
      exact ⟨.connectionFailed (errorMessage fault) (errorCode fault).plain,
        report_of_reportable parameters session reportable, rfl, rfl⟩
  | none, _ | some _, none => exact report_of_unreportable parameters session reportable

theorem isSome_written? (value : Datum) : (written? value).isSome = value.isWritable := by
  unfold written?
  split <;> simp_all

theorem eq_plain_of_written? {value : Datum} {text : Text} (written : written? value = some text) :
    text = value.plain := by
  unfold written? at written
  split at written
  · exact (Option.some.inj written).symm
  · cases written

theorem concludes_report (database : fault.isDatabase = true) (connected : Bool) :
    Concludes (.error fault) (session.report parameters fault).1 connected where
  opened count answered := by cases answered
  numbered fault code message others answered _ shape := by
    cases answered
    apply explains_report
    · simp only [isReportable, shape, isSome_written?]
    · intro text written
      simp only [errorMessage, shape, eq_plain_of_written? written]
    · intro text written
      simp only [errorCode, shape, List.headD_cons, eq_plain_of_written? written]
  short fault answered _ few := by
    cases answered
    have single : isReportable fault = Datum.areWritable fault.arguments ∧
        errorMessage fault = fault.message ∧
        (Datum.areWritable fault.arguments = true →
          (errorCode fault).isWritable = true) := by
      unfold isReportable errorMessage errorCode
      match shape : fault.arguments with
      | [] => exact ⟨rfl, rfl, fun _ => rfl⟩
      | [only] => exact ⟨rfl, rfl, by simp [Datum.areWritable]⟩
      | _ :: _ :: _ =>
          rw [shape, List.length_cons, List.length_cons] at few
          omega
    rcases single with ⟨reportable, message, number⟩
    apply explains_report
    · rw [isSome_written?, reportable, wholeText?]
      cases writable : Datum.areWritable fault.arguments with
      | true => exact (number writable).symm
      | false => rfl
    · intro text written
      rw [message]
      unfold wholeText? at written
      split at written
      · exact (Option.some.inj written).symm
      · cases written
    · exact fun text written => eq_plain_of_written? written
  passed fault answered other := by
    cases answered
    cases database.symm.trans other

theorem concludes_passed (other : fault.isDatabase = false) (connected : Bool) :
    Concludes (.error fault) (.error fault) connected where
  opened count answered := by cases answered
  numbered fault code message others answered database := by
    cases answered
    cases other.symm.trans database
  short fault answered database := by
    cases answered
    cases other.symm.trans database
  passed fault answered _ := by
    cases answered
    rfl

theorem concludes_ok (count : Int) : Concludes (.ok count) (.ok ()) true where
  opened _ _ := ⟨rfl, rfl⟩
  numbered fault code message others answered := by cases answered
  short fault answered := by cases answered
  passed fault answered := by cases answered

end Report

section Connect

variable {State : Type u} (server : Server State) (parameters : Parameters)

theorem concludes_connect (session : Session State) :
    let tried := session.attempts server parameters pauses
    let opened := session.connect server parameters
    Concludes tried.1 opened.1 opened.2.connected ∧
      opened.2.transcript = tried.2.transcript := by
  intro tried opened
  have course : session.attempts server parameters pauses = tried := rfl
  rcases tried with ⟨answer, after⟩
  cases answer with
  | ok count =>
      have result : opened = (.ok (), after.hold true) := by
        simp only [opened, Session.connect, course]
      rw [result]
      exact ⟨concludes_ok count, rfl⟩
  | error fault =>
      cases database : fault.isDatabase with
      | true =>
          have result : opened = after.report parameters fault := by
            simp only [opened, Session.connect, course, database, if_true]
          rcases exists_report parameters fault after with ⟨_, _, reported⟩
          rw [result]
          exact ⟨concludes_report parameters after database _, by rw [reported]⟩
      | false =>
          have result : opened = (.error fault, after) := by
            simp only [opened, Session.connect, course, database, Bool.false_eq_true, if_false]
          rw [result]
          exact ⟨concludes_passed database _, rfl⟩

/-- Attempts go on up to the first answer that settles the matter, three in all, with the
same parameters and with pauses of one and two seconds; the last answer makes the result. -/
theorem connect_retries_operational_errors (session : Session State) :
    let answers := outcomes server parameters session.server
    let opened := session.connect server parameters
    ∃ count tried,
      (∀ first, Settles answers first → count = min 3 (first + 1)) ∧
      ((∀ number, mayPass (answers number) = true) → count = 3) ∧
      patience.Run server (.connect parameters) 1 session (answers (count - 1)) tried ∧
      opened.2.transcript = tried.transcript ∧
      tried.transcript =
        session.transcript ++ course parameters ([1, 2].take (count - 1)) (answers (count - 1)) ∧
      Concludes (answers (count - 1)) opened.1 opened.2.connected := by
  intro answers opened
  rcases exists_attempts server parameters session pauses with
    ⟨made, bound, passing, settled, ends, written⟩
  have enough : made ≤ 2 := bound
  have run := run_attempts server parameters rfl Retrying.plans_patience session
  rcases concludes_connect server parameters session with ⟨concludes, same⟩
  rw [ends] at run concludes
  refine ⟨made + 1, _, fun first settles => ?_, fun all => ?_, run, same, written, concludes⟩
  · have reached : ¬ first < made := fun passed => by
      cases settles.settled.symm.trans (passing first passed)
    rcases Nat.lt_or_ge made 2 with within | beyond
    · have notBehind : ¬ made < first := fun passed => by
        cases (settled within).symm.trans (settles.passing made passed)
      omega
    · omega
  · rcases Nat.lt_or_ge made 2 with within | beyond
    · cases (settled within).symm.trans (all made)
    · omega

end Connect

/-- All three attempts are refused with a number that is too long to be written.  That it is
too long is all that is raised then. -/
theorem unwritable_refusal_is_not_reported :
    let number : Nat := Nat.pow 10 Decimal.digitLimit
    let fault : Fault := .failed ⟨.database .operational, [.integer number, .text "gone"], none⟩
    let answers : Nat → Except Fault Int := fun _ => .error fault
    let parameters : Parameters := ⟨"localhost", 3306, "root", "", "shop", "utf8mb4"⟩
    let opened := (Session.start answers).connect told parameters
    outcomes told parameters answers 2 = .error fault ∧ fault.isDatabase = true ∧
      opened.1 = .error .numberTooLong ∧
      ∀ refusal, opened.1 = .error refusal → refusal.label ≠ "SinkError" := by
  intro number fault answers parameters opened
  have long : Decimal.isTooLong number = true := Decimal.isTooLong_natCast (Nat.le_refl _)
  clear_value number
  have database : fault.isDatabase = true := rfl
  have operational : isOperational fault = true := rfl
  have unreportable : isReportable fault = false := by
    simp [fault, isReportable, Fault.arguments, Datum.isWritable, long]
  clear_value fault
  have tried : (Session.start answers).attempts told parameters pauses =
      (.error fault, ((Session.start answers).attempts told parameters pauses).2) := by
    simp [pauses, Session.attempts, Session.act, told, Session.pause, Session.start, answers,
      operational]
  have raised : opened.1 = .error .numberTooLong := by
    simp only [opened, Session.connect]
    rw [tried]
    simp only [database, if_true]
    exact report_of_unreportable parameters _ unreportable
  refine ⟨rfl, database, raised, ?_⟩
  rw [raised]
  rintro refusal ⟨⟩
  decide

/-- A server that is reached at the third attempt. -/
example :
    let refusal : Failure := ⟨.database .operational, [.integer 2003, .text "gone"], none⟩
    let answers : Nat → Except Fault Int := fun number =>
      if number < 2 then .error (.failed refusal) else .ok 0
    let parameters : Parameters := ⟨"localhost", 3306, "root", "", "shop", "utf8mb4"⟩
    ((Session.start answers).connect told parameters).2.transcript =
      [.acted (.connect parameters) false, .paused 1, .acted (.connect parameters) false,
        .paused 2, .acted (.connect parameters) true] := by
  decide

end Database

end SchemaSeed
