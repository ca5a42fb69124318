import Mathlib.Data.List.Forall2
import SchemaSeed.Proofs.Database.Dialogue
import SchemaSeed.Proofs.Decimal.Natural

/-! The order in which a batch is dealt with, on every path.  The statement is sent once,
after what prepares it; it is committed once, after it completed; and where either
fails, the warnings are asked for, then the transaction is rolled back, then the cursor
is left. -/

namespace SchemaSeed

namespace Database

universe u

/-! ## Servers -/

/-- Apart from a connection, whatever is refused is refused with a database error. -/
structure Server.RefusesAsDatabase {State : Type u} (server : Server State) : Prop where
  perform : ∀ {action : Action} {state : State} {fault : Fault},
    (∀ parameters, action ≠ .connect parameters) →
    (server.perform action state).1 = .error fault → fault.isDatabase = true
  fetch : ∀ {state : State} {fault : Fault},
    (server.fetch state).1 = .error fault → fault.isDatabase = true

/-- The answer is no refusal, or one by the database. -/
def Exchange.isOfDatabase : Exchange → Bool
  | asked (.connect _) _ => true
  | asked _ (.error fault) => fault.isDatabase
  | fetched (.error fault) => fault.isDatabase
  | _ => true

theorem Held.isOfDatabase {State : Type u} {server : Server State} {before after : State}
    {dialogue : Dialogue} (held : Held server before dialogue after)
    (database : server.RefusesAsDatabase) :
    ∀ exchange ∈ dialogue, exchange.isOfDatabase = true := by
  intro exchange member
  cases exchange with
  | asked action answer =>
      rcases held.exists_performed member with ⟨state, performed⟩
      cases answer with
      | ok count => cases action <;> rfl
      | error fault =>
          cases action with
          | connect parameters => rfl
          | _ => exact database.perform (by simp) performed
  | fetched answer =>
      rcases held.exists_fetched member with ⟨state, told⟩
      cases answer with
      | ok rows => rfl
      | error fault => exact database.fetch told
  | paused seconds => rfl

/-- What a failed transaction is reported with can be written: the error of the statement or
of the commit, the warnings, and an error in place of them. -/
def Exchange.isWritable (statement : Text) : Exchange → Bool
  | asked (.execute sent) (.error fault) =>
      (sent != statement && sent != showWarnings) || fault.text.isOk
  | asked .commit (.error fault) => fault.text.isOk
  | fetched answer => isTellable answer
  | _ => true

/-- The number of rows is told if it can be written. -/
theorem success_cases (affected : Int) :
    (Decimal.isTooLong affected = false ∧ ∃ detail, success affected = .ok ⟨true, detail⟩) ∨
      (Decimal.isTooLong affected = true ∧ success affected = .error .numberTooLong) := by
  rw [success]
  cases Decimal.isTooLong affected with
  | false => exact .inl ⟨rfl, _, rfl⟩
  | true => exact .inr ⟨rfl, rfl⟩

/-! ## Kinds of exchanges -/

/-- Actions that stand around the transaction itself. -/
def Action.surrounds (preparation : List Text) : Action → Bool
  | .connect _ | .cursor | .leaveCursor => true
  | .execute statement => preparation.contains statement
  | .commit | .rollback | .close => false

namespace Exchange

def asks (action : Action) : Exchange → Bool
  | asked found _ => found == action
  | _ => false

def completes (action : Action) : Exchange → Bool
  | asked found (.ok _) => found == action
  | _ => false

def surrounds (preparation : List Text) : Exchange → Bool
  | asked action _ => action.surrounds preparation
  | paused _ => true
  | fetched _ => false

theorem surrounds_of_connects {exchange : Exchange} (connects : exchange.connects = true)
    (preparation : List Text) : exchange.surrounds preparation = true := by
  cases exchange with
  | asked action answer => cases action <;> first | rfl | cases connects
  | fetched rows => cases connects
  | paused seconds => rfl

theorem asks_of_completes {action : Action} {exchange : Exchange}
    (completed : exchange.completes action = true) : exchange.asks action = true := by
  cases exchange with
  | asked found answer =>
      cases answer with
      | error fault => cases completed
      | ok count => exact completed
  | fetched rows => cases completed
  | paused seconds => cases completed

end Exchange

open Exchange

namespace Dialogue

/-- Every exchange of the one kind comes after one of the other. -/
def Follows (dialogue : Dialogue) (later earlier : Exchange → Bool) : Prop :=
  ∀ before exchange after, dialogue = before ++ exchange :: after → later exchange = true →
    before.any earlier = true

theorem follows_of_none {dialogue : Dialogue} {later earlier : Exchange → Bool}
    (none : dialogue.countP later = 0) : dialogue.Follows later earlier := by
  intro before exchange after shape found
  have absent := List.countP_eq_zero.mp none exchange (by simp [shape])
  exact absurd found absent

/-- What the lead of a dialogue does not hold follows what it holds. -/
theorem follows_of_lead {lead rest : Dialogue} {later earlier : Exchange → Bool}
    (none : lead.countP later = 0) (some : lead.any earlier = true) :
    Dialogue.Follows (lead ++ rest) later earlier := by
  intro before exchange after shape found
  rcases List.append_eq_append_iff.mp shape with ⟨more, longer, -⟩ | ⟨more, shorter, same⟩
  · rw [longer, List.any_append, some, Bool.true_or]
  · cases more with
    | nil =>
        rw [List.append_nil] at shorter
        rwa [← shorter]
    | cons first more =>
        cases same
        have absent := List.countP_eq_zero.mp none exchange (by simp [shorter])
        exact absurd found absent

theorem Follows.append_left {lead rest : Dialogue} {later earlier : Exchange → Bool}
    (follows : Follows rest later earlier) (none : lead.countP later = 0) :
    Dialogue.Follows (lead ++ rest) later earlier := by
  intro before exchange after shape found
  rcases List.append_eq_append_iff.mp shape with ⟨more, longer, same⟩ | ⟨more, shorter, same⟩
  · rw [longer, List.any_append, follows more exchange after same found, Bool.or_true]
  · cases more with
    | nil => cases follows [] exchange after same.symm found
    | cons first more =>
        cases same
        have absent := List.countP_eq_zero.mp none exchange (by simp [shorter])
        exact absurd found absent

theorem Follows.append_right {lead rest : Dialogue} {later earlier : Exchange → Bool}
    (follows : Follows lead later earlier) (none : rest.countP later = 0) :
    Dialogue.Follows (lead ++ rest) later earlier := by
  intro before exchange after shape found
  have outside (member : exchange ∈ rest) : before.any earlier = true :=
    absurd found (List.countP_eq_zero.mp none exchange member)
  rcases List.append_eq_append_iff.mp shape with ⟨more, -, same⟩ | ⟨more, shorter, same⟩
  · exact outside (by simp [same])
  · cases more with
    | nil =>
        rw [List.nil_append] at same
        exact outside (same ▸ List.mem_cons_self)
    | cons first more =>
        cases same
        exact follows before exchange more shorter found

theorem any_completes_of_none {dialogue : Dialogue} {action : Action}
    (none : dialogue.countP (asks action) = 0) : dialogue.any (completes action) = false := by
  rw [List.any_eq_false]
  intro exchange member completed
  exact List.countP_eq_zero.mp none exchange member (asks_of_completes completed)

theorem asked_not_mem_of_none {dialogue : Dialogue} {action : Action}
    (none : dialogue.countP (asks action) = 0) (answer : Except Fault Int) :
    Exchange.asked action answer ∉ dialogue := by
  intro member
  exact List.countP_eq_zero.mp none _ member (beq_self_eq_true action)

/-- The surroundings of a transaction ask for none of its actions. -/
theorem countP_asks_of_surrounds {preparation : List Text} {dialogue : Dialogue}
    (around : ∀ exchange ∈ dialogue, exchange.surrounds preparation = true) {action : Action}
    (inner : action.surrounds preparation = false) : dialogue.countP (asks action) = 0 := by
  rw [List.countP_eq_zero]
  intro exchange member asked
  have surrounds := around exchange member
  cases exchange with
  | asked found answer =>
      have same : found = action := by simpa [asks] using asked
      subst same
      simp [Exchange.surrounds, inner] at surrounds
  | fetched rows => cases asked
  | paused seconds => cases asked

end Dialogue

/-! ## The course of a call -/

theorem statement_begins {batch : Batch} {statement : Text}
    (written : batch.statement = .ok statement) : statement.head? = some 'I' := by
  simp only [Batch.statement] at written
  split at written
  · cases written
  · split at written
    · cases written
    · cases written
      rfl

theorem ne_of_begins {statement known : Text} (begins : statement.head? = some 'I')
    (foreign : known.head? ≠ some 'I') : statement ≠ known := by
  rintro rfl
  exact foreign begins

/-- The statement of a batch is none of those that stand around it. -/
theorem surrounds_eq_false_of_begins {statement : Text} (begins : statement.head? = some 'I')
    (parameters : Parameters) (rowCount : Nat) :
    (Action.execute statement).surrounds (preparation parameters rowCount) = false := by
  have noChecks : statement ≠ disableKeyChecks := ne_of_begins begins (by decide)
  have noLimit : statement ≠ raisePacketLimit := ne_of_begins begins (by decide)
  simp only [Action.surrounds, preparation]
  split <;> simp [noChecks, noLimit]

/-- Everything but the transaction stands around it: either there is none, or all that
prepares it completed before. -/
inductive Course (preparation : List Text) (statement : Text) :
    Dialogue → Except Fault Outcome → Prop
  | stopped {dialogue : Dialogue} {fault : Fault}
      (around : ∀ exchange ∈ dialogue, exchange.surrounds preparation = true) :
      Course preparation statement dialogue (.error fault)
  | transacted {lead transaction : Dialogue} {left : Except Fault Int}
      {result : Except Fault Outcome}
      (around : ∀ exchange ∈ lead, exchange.surrounds preparation = true)
      (unleft : lead.countP (asks .leaveCursor) = 0)
      (prepared : ∀ known ∈ preparation, lead.any (completes (.execute known)) = true)
      (transacts : Transacts statement transaction result) :
      Course preparation statement (lead ++ (transaction ++ [.asked .leaveCursor left]))
        (onLeaving left result)

theorem Prepares.surrounds {statements : List Text} {dialogue : Dialogue}
    {result : Except Fault Unit} (prepares : Prepares statements dialogue result)
    {preparation : List Text} (known : ∀ statement ∈ statements, statement ∈ preparation) :
    ∀ exchange ∈ dialogue, exchange.surrounds preparation = true := by
  induction prepares with
  | done => simp
  | refused => simpa [Exchange.surrounds, Action.surrounds] using known _ List.mem_cons_self
  | sent later induction =>
      intro exchange member
      rcases List.mem_cons.mp member with rfl | member
      · simpa [Exchange.surrounds, Action.surrounds] using known _ List.mem_cons_self
      · exact induction (fun statement found => known statement (List.mem_cons_of_mem _ found))
          exchange member

theorem Prepares.completes {statements : List Text} {dialogue : Dialogue}
    (prepares : Prepares statements dialogue (.ok ())) :
    ∀ statement ∈ statements, dialogue.any (completes (.execute statement)) = true := by
  generalize done : Except.ok () = result at prepares
  induction prepares with
  | done => simp
  | refused => cases done
  | sent later induction =>
      intro statement member
      rcases List.mem_cons.mp member with rfl | member
      · simp [Exchange.completes]
      · simp [induction done statement member]

theorem Prepares.countP_asks {statements : List Text} {dialogue : Dialogue}
    {result : Except Fault Unit} (prepares : Prepares statements dialogue result) {action : Action}
    (other : ∀ statement, action ≠ .execute statement) : dialogue.countP (asks action) = 0 := by
  induction prepares with
  | done => rfl
  | refused => simp [asks, (other _).symm]
  | sent later induction => simp [asks, (other _).symm, induction]

theorem countP_asks_of_connects {dialogue : Dialogue}
    (connects : ∀ exchange ∈ dialogue, Exchange.connects exchange = true) {action : Action}
    (other : ∀ parameters, action ≠ .connect parameters) : dialogue.countP (asks action) = 0 := by
  rw [List.countP_eq_zero]
  intro exchange member asked
  have opening := connects exchange member
  cases exchange with
  | asked found answer =>
      cases found with
      | connect parameters =>
          have same : .connect parameters = action := by simpa [asks] using asked
          exact other parameters same.symm
      | _ => cases opening
  | fetched answer => cases opening
  | paused seconds => cases asked

theorem Calls.course {parameters : Parameters} {batch : Batch} {statement : Text}
    {dialogue : Dialogue} {result : Except Fault Outcome}
    (calls : Calls parameters batch dialogue result)
    (written : batch.statement = .ok statement) :
    Course (preparation parameters batch.rows.length) statement dialogue result := by
  have connecting {dialogue : Dialogue}
      (connects : ∀ exchange ∈ dialogue, Exchange.connects exchange = true) :
      ∀ exchange ∈ dialogue,
        exchange.surrounds (preparation parameters batch.rows.length) = true :=
    fun exchange member => surrounds_of_connects (connects exchange member) _
  cases calls with
  | unwritable unwritten =>
      rw [written] at unwritten
      cases unwritten
  | unconnected _ connects => exact .stopped (connecting connects)
  | cursorless _ connects =>
      refine .stopped ?_
      rw [List.forall_mem_append, List.forall_mem_singleton]
      exact ⟨connecting connects, rfl⟩
  | @worked sent before work count left _ sentWritten connects works =>
      have same : sent = statement := by
        rw [written] at sentWritten
        cases sentWritten
        rfl
      subst same
      have opened : ∀ exchange ∈ before ++ [.asked .cursor (.ok count)],
          exchange.surrounds (preparation parameters batch.rows.length) = true := by
        rw [List.forall_mem_append, List.forall_mem_singleton]
        exact ⟨connecting connects, rfl⟩
      cases works with
      | @unprepared _ fault prepares =>
          have raised : ∃ last, onLeaving left (.error fault) = .error last := by
            cases left <;> exact ⟨_, rfl⟩
          rcases raised with ⟨last, raised⟩
          rw [raised]
          refine .stopped ?_
          rw [List.forall_mem_append, List.forall_mem_append, List.forall_mem_cons,
            List.forall_mem_singleton]
          exact ⟨⟨connecting connects, rfl, prepares.surrounds fun _ known => known⟩, rfl⟩
      | @transacted preparing transaction _ prepares transacts =>
          have shape : before ++ .asked .cursor (.ok count) :: (preparing ++ transaction) ++
              [.asked .leaveCursor left] =
                (before ++ [.asked .cursor (.ok count)] ++ preparing) ++
                  (transaction ++ [.asked .leaveCursor left]) := by
            simp
          rw [shape]
          refine .transacted ?_ ?_ ?_ transacts
          · exact List.forall_mem_append.mpr ⟨opened, prepares.surrounds fun _ known => known⟩
          · simp [countP_asks_of_connects connects, prepares.countP_asks, asks]
          · intro known member
            simp [prepares.completes known member]

/-! ## Recovery -/

theorem Warns.countP_asks {asking : Dialogue} {answer : Except Fault (List (List Datum))}
    (warns : Warns asking answer) (action : Action) :
    asking.countP (asks action) = if action = .execute showWarnings then 1 else 0 := by
  cases warns <;> simp [asks, List.countP_cons, eq_comm (a := action)]

theorem Warns.isWritable_iff {asking : Dialogue} {answer : Except Fault (List (List Datum))}
    (warns : Warns asking answer) (statement : Text) :
    (∀ exchange ∈ asking, exchange.isWritable statement = true) ↔ isTellable answer = true := by
  cases warns <;> simp [Exchange.isWritable, isTellable]

theorem Warns.isDatabase {asking : Dialogue} {answer : Except Fault (List (List Datum))}
    (warns : Warns asking answer) (ofDatabase : ∀ exchange ∈ asking, exchange.isOfDatabase = true)
    (refusal : Fault) (refused : answer = .error refusal) : refusal.isDatabase = true := by
  subst refused
  cases warns with
  | refused => exact ofDatabase _ List.mem_cons_self
  | fetched => exact ofDatabase (.fetched (.error refusal)) (by simp)

theorem Warns.any_completes {asking : Dialogue} {answer : Except Fault (List (List Datum))}
    (warns : Warns asking answer) {action : Action} (other : action ≠ .execute showWarnings) :
    asking.any (completes action) = false := by
  apply Dialogue.any_completes_of_none
  rw [warns.countP_asks, if_neg other]

namespace Recovers

variable {fault : Fault} {dialogue : Dialogue} {result : Except Fault Outcome}

/-- Recovery asks for the warnings and for a rollback, and for nothing else. -/
theorem countP_asks (recovery : Recovers fault dialogue result) {action : Action}
    (noWarnings : action ≠ .execute showWarnings) (noRollback : action ≠ .rollback) :
    dialogue.countP (asks action) = 0 := by
  have none {asking : Dialogue} {answer : Except Fault (List (List Datum))}
      (warns : Warns asking answer) : asking.countP (asks action) = 0 := by
    rw [warns.countP_asks, if_neg noWarnings]
  cases recovery with
  | foreign | unwritten => rfl
  | untold _ _ warns => exact none warns
  | stuck _ _ warns | undone _ _ warns =>
      simp [List.countP_append, none warns, asks, noRollback.symm]

/-- A failure is answered if the rollback completes, and a success never. -/
theorem ok_iff (recovery : Recovers fault dialogue result) :
    ((∃ detail, result = .ok ⟨false, detail⟩) ↔ dialogue.any (completes .rollback) = true) ∧
      ∀ detail, result ≠ .ok ⟨true, detail⟩ := by
  have none {asking : Dialogue} {answer : Except Fault (List (List Datum))}
      (warns : Warns asking answer) : asking.any (completes .rollback) = false :=
    warns.any_completes (by simp)
  cases recovery with
  | foreign | unwritten => simp
  | untold _ _ warns => simp [none warns]
  | stuck _ _ warns => simp [none warns, completes]
  | undone => simp [completes]

/-- If the database refused the transaction and all can be written, the warnings are asked for
and then comes the only rollback. -/
theorem exists_rollback (recovery : Recovers fault dialogue result)
    (database : fault.isDatabase = true) (shown : fault.text.isOk = true)
    (told : ∀ asking answer, Warns asking answer → asking ⊆ dialogue →
      isTellable answer = true ∧ ∀ refusal, answer = .error refusal → refusal.isDatabase = true) :
    ∃ asking answer undone, Warns asking answer ∧
      dialogue = asking ++ [.asked .rollback undone] := by
  cases recovery with
  | foreign foreign => cases foreign.symm.trans database
  | unwritten _ first =>
      rcases errorLine_cases database with ⟨-, line, -, written⟩ | ⟨unwritten, -⟩
      · cases first.symm.trans written
      · rw [unwritten] at shown
        cases shown
  | @untold _ _ line _ _ _ warns unwritten =>
      rcases told _ _ warns (List.Subset.refl _) with ⟨tellable, ofDatabase⟩
      rcases linesWith_cases line ofDatabase with ⟨-, more, written⟩ | ⟨untellable, -⟩
      · cases unwritten.symm.trans written
      · cases untellable.symm.trans tellable
  | stuck _ _ warns | undone _ _ warns => exact ⟨_, _, _, warns, rfl⟩

end Recovers

/-! ## The protocol -/

/-- What a call may do, in which order, and what its result says about it. -/
structure Protocol (parameters : Parameters) (rowCount : Nat) (statement : Text)
    (dialogue : Dialogue) (result : Except Fault Outcome) : Prop where
  sent_once : dialogue.countP (asks (.execute statement)) ≤ 1
  checks_disabled :
    dialogue.Follows (asks (.execute statement)) (completes (.execute disableKeyChecks))
  limit_raised : parameters.user = administrator ∧ largeBatch < rowCount →
    dialogue.Follows (asks (.execute statement)) (completes (.execute raisePacketLimit))
  limit_kept : ¬ (parameters.user = administrator ∧ largeBatch < rowCount) →
    dialogue.countP (asks (.execute raisePacketLimit)) = 0
  committed_once : dialogue.countP (asks .commit) ≤ 1
  commit_follows : dialogue.Follows (asks .commit) (completes (.execute statement))
  /-- A success is answered if statement and commit completed, the cursor was left, and the
  number of rows can be written. -/
  success_iff : (∃ detail, result = .ok ⟨true, detail⟩) ↔
    (∃ affected, .asked (.execute statement) (.ok affected) ∈ dialogue ∧
      Decimal.isTooLong affected = false) ∧
    dialogue.any (completes .commit) = true ∧ dialogue.any (completes .leaveCursor) = true
  /-- A failure is answered if the rollback completed and the cursor was left. -/
  failure_iff : (∃ detail, result = .ok ⟨false, detail⟩) ↔
    dialogue.any (completes .rollback) = true ∧ dialogue.any (completes .leaveCursor) = true
  /-- Behind a refused statement or commit stand the recovery from it and the end of the
  cursor, and nothing else. -/
  recovered : ∀ action, action = .execute statement ∨ action = .commit → ∀ fault,
    .asked action (.error fault) ∈ dialogue → ∃ before recovery inner left,
      dialogue =
        before ++ .asked action (.error fault) :: (recovery ++ [.asked .leaveCursor left]) ∧
      before.countP (asks .rollback) = 0 ∧ Recovers fault recovery inner ∧
      result = onLeaving left inner
  /-- If all that is to be reported can be written, the recovery holds one rollback, after the
  request for the warnings. -/
  undone : (∀ exchange ∈ dialogue, exchange.isWritable statement = true) →
    ∀ action, action = .execute statement ∨ action = .commit → ∀ fault,
      .asked action (.error fault) ∈ dialogue →
        dialogue.countP (asks .rollback) = 1 ∧
        dialogue.Follows (asks .rollback) (asks (.execute showWarnings))

section Courses

variable {parameters : Parameters} {rowCount : Nat} {statement : Text}

theorem limit_surrounds_eq_false
    (ordinary : ¬ (parameters.user = administrator ∧ largeBatch < rowCount)) :
    (Action.execute raisePacketLimit).surrounds (preparation parameters rowCount) = false := by
  simp only [preparation, ordinary, if_false]
  decide

/-- A call that stops before its statement. -/
theorem protocol_of_stopped {dialogue : Dialogue} {fault : Fault}
    (begins : statement.head? = some 'I')
    (around : ∀ exchange ∈ dialogue,
      exchange.surrounds (preparation parameters rowCount) = true) :
    Protocol parameters rowCount statement dialogue (.error fault) := by
  have noStatement := Dialogue.countP_asks_of_surrounds around
    (surrounds_eq_false_of_begins begins parameters rowCount)
  have noCommit := @Dialogue.countP_asks_of_surrounds _ _ around .commit rfl
  have noRollback := @Dialogue.countP_asks_of_surrounds _ _ around .rollback rfl
  have unrefused {action : Action} (either : action = .execute statement ∨ action = .commit)
      (fault : Fault) : .asked action (.error fault) ∉ dialogue := by
    rcases either with rfl | rfl
    · exact Dialogue.asked_not_mem_of_none noStatement _
    · exact Dialogue.asked_not_mem_of_none noCommit _
  constructor
  · rw [noStatement]
    exact Nat.zero_le 1
  · exact Dialogue.follows_of_none noStatement
  · exact fun _ => Dialogue.follows_of_none noStatement
  · exact fun ordinary =>
      Dialogue.countP_asks_of_surrounds around (limit_surrounds_eq_false ordinary)
  · rw [noCommit]
    exact Nat.zero_le 1
  · exact Dialogue.follows_of_none noCommit
  · simp [Dialogue.any_completes_of_none noCommit]
  · simp [Dialogue.any_completes_of_none noRollback]
  · exact fun action either fault member => absurd member (unrefused either fault)
  · exact fun _ action either fault member => absurd member (unrefused either fault)

/-! ### The transaction -/

/-- Where a transaction fails, and what of it completed before. -/
inductive Fails (statement : Text) : Dialogue → Action → Prop
  | sending : Fails statement [] (.execute statement)
  | committing {affected : Int} :
      Fails statement [.asked (.execute statement) (.ok affected)] .commit

namespace Transacts

variable {transaction : Dialogue} {result : Except Fault Outcome}

/-- A transaction is committed, or fails at one place and is recovered from. -/
theorem committed_or_failed (transacts : Transacts statement transaction result) :
    (∃ affected count, transaction =
        [.asked (.execute statement) (.ok affected), .asked .commit (.ok count)] ∧
      result = success affected) ∨
    ∃ begun action fault recovery,
      transaction = begun ++ .asked action (.error fault) :: recovery ∧
      Fails statement begun action ∧ Recovers fault recovery result := by
  cases transacts with
  | refused recovery => exact .inr ⟨[], _, _, _, rfl, .sending, recovery⟩
  | uncommitted recovery => exact .inr ⟨[_], _, _, _, rfl, .committing, recovery⟩
  | committed => exact .inl ⟨_, _, rfl, rfl⟩

/-- Besides statement and commit, only recovery asks for anything. -/
theorem countP_asks (transacts : Transacts statement transaction result) {action : Action}
    (noStatement : action ≠ .execute statement) (noCommit : action ≠ .commit)
    (noWarnings : action ≠ .execute showWarnings) (noRollback : action ≠ .rollback) :
    transaction.countP (asks action) = 0 := by
  rcases transacts.committed_or_failed with
    ⟨affected, count, rfl, -⟩ | ⟨begun, failing, fault, recovery, rfl, fails, recovers⟩
  · simp [asks, noStatement.symm, noCommit.symm]
  · have none := recovers.countP_asks noWarnings noRollback
    cases fails <;> simp [asks, none, noStatement.symm, noCommit.symm]

theorem countP_statement (transacts : Transacts statement transaction result)
    (noWarnings : statement ≠ showWarnings) :
    transaction.countP (asks (.execute statement)) = 1 := by
  have other : Action.execute statement ≠ .execute showWarnings := by simpa using noWarnings
  rcases transacts.committed_or_failed with
    ⟨affected, count, rfl, -⟩ | ⟨begun, failing, fault, recovery, rfl, fails, recovers⟩
  · simp [asks]
  · have none := recovers.countP_asks other (by simp)
    cases fails <;> simp [asks, none]

theorem countP_commit_le (transacts : Transacts statement transaction result) :
    transaction.countP (asks .commit) ≤ 1 := by
  rcases transacts.committed_or_failed with
    ⟨affected, count, rfl, -⟩ | ⟨begun, failing, fault, recovery, rfl, fails, recovers⟩
  · simp [asks]
  · have none : recovery.countP (asks .commit) = 0 := recovers.countP_asks (by simp) (by simp)
    cases fails <;> simp [asks, none]

theorem commit_follows (transacts : Transacts statement transaction result) :
    transaction.Follows (asks .commit) (completes (.execute statement)) := by
  have behind {affected : Int} (rest : Dialogue) :
      Dialogue.Follows ([.asked (.execute statement) (.ok affected)] ++ rest) (asks .commit)
        (completes (.execute statement)) :=
    Dialogue.follows_of_lead (by simp [asks]) (by simp [completes])
  rcases transacts.committed_or_failed with
    ⟨affected, count, rfl, -⟩ | ⟨begun, failing, fault, recovery, rfl, fails, recovers⟩
  · exact behind _
  · cases fails with
    | sending =>
        have none : recovery.countP (asks .commit) = 0 := recovers.countP_asks (by simp) (by simp)
        apply Dialogue.follows_of_none
        simp [asks, none]
    | committing => exact behind _

theorem success_iff (transacts : Transacts statement transaction result)
    (noWarnings : statement ≠ showWarnings) :
    (∃ detail, result = .ok ⟨true, detail⟩) ↔
      (∃ affected, .asked (.execute statement) (.ok affected) ∈ transaction ∧
        Decimal.isTooLong affected = false) ∧ transaction.any (completes .commit) = true := by
  rcases transacts.committed_or_failed with
    ⟨affected, count, rfl, same⟩ | ⟨begun, failing, fault, recovery, rfl, fails, recovers⟩
  · rw [same]
    rcases success_cases affected with ⟨short, detail, told⟩ | ⟨long, told⟩
    · simp [told, short, completes]
    · simp [told, long]
  · have unsuccessful : ¬ ∃ detail, result = .ok ⟨true, detail⟩ := by
      rintro ⟨detail, same⟩
      exact recovers.ok_iff.2 detail same
    have other : Action.execute statement ≠ .execute showWarnings := by simpa using noWarnings
    have unsent := Dialogue.asked_not_mem_of_none (recovers.countP_asks other (by simp))
    have noCommit : recovery.countP (asks .commit) = 0 := recovers.countP_asks (by simp) (by simp)
    have uncommitted := Dialogue.any_completes_of_none noCommit
    rw [iff_false_left unsuccessful]
    rintro ⟨⟨affected, member, -⟩, committed⟩
    cases fails with
    | sending => simp [unsent] at member
    | committing => simp [completes, uncommitted] at committed

theorem failure_iff (transacts : Transacts statement transaction result) :
    (∃ detail, result = .ok ⟨false, detail⟩) ↔ transaction.any (completes .rollback) = true := by
  rcases transacts.committed_or_failed with
    ⟨affected, count, rfl, same⟩ | ⟨begun, failing, fault, recovery, rfl, fails, recovers⟩
  · rw [same]
    rcases success_cases affected with ⟨-, detail, told⟩ | ⟨-, told⟩ <;> simp [told, completes]
  · rw [recovers.ok_iff.1]
    cases fails <;> simp [completes]

/-- Behind a refused statement or commit stands the recovery from it, and nothing else. -/
theorem recovered (transacts : Transacts statement transaction result)
    (noWarnings : statement ≠ showWarnings) {action : Action}
    (either : action = .execute statement ∨ action = .commit) {fault : Fault}
    (member : .asked action (.error fault) ∈ transaction) :
    ∃ before recovery, transaction = before ++ .asked action (.error fault) :: recovery ∧
      before.countP (asks .rollback) = 0 ∧ Recovers fault recovery result := by
  rcases transacts.committed_or_failed with
    ⟨affected, count, rfl, -⟩ | ⟨begun, failing, known, recovery, rfl, fails, recovers⟩
  · rcases either with rfl | rfl <;> simp at member
  · have other : action ≠ .execute showWarnings := by
      rcases either with rfl | rfl
      · simpa using noWarnings
      · simp
    have notRollback : action ≠ .rollback := by rcases either with rfl | rfl <;> simp
    have outside := Dialogue.asked_not_mem_of_none (recovers.countP_asks other notRollback)
    have same : action = failing ∧ fault = known := by
      cases fails <;> simpa [outside] using member
    rcases same with ⟨rfl, rfl⟩
    exact ⟨begun, recovery, rfl, by cases fails <;> simp [asks], recovers⟩

/-- If the database refused the transaction and all can be written, it is rolled back once,
after the warnings were asked for. -/
theorem undone (transacts : Transacts statement transaction result)
    (noWarnings : statement ≠ showWarnings)
    (ofDatabase : ∀ exchange ∈ transaction, exchange.isOfDatabase = true)
    (writable : ∀ exchange ∈ transaction, exchange.isWritable statement = true) {action : Action}
    (either : action = .execute statement ∨ action = .commit) {fault : Fault}
    (member : .asked action (.error fault) ∈ transaction) :
    transaction.countP (asks .rollback) = 1 ∧
      transaction.Follows (asks .rollback) (asks (.execute showWarnings)) := by
  rcases transacts.recovered noWarnings either member with ⟨before, recovery, rfl, none, recovers⟩
  have database : fault.isDatabase = true := by
    have refused := ofDatabase _ member
    rcases either with rfl | rfl <;> exact refused
  have shown : fault.text.isOk = true := by
    have refused := writable _ member
    rcases either with rfl | rfl
    · simpa [Exchange.isWritable] using refused
    · exact refused
  have told (asking : Dialogue) (answer : Except Fault (List (List Datum)))
      (warns : Warns asking answer) (part : asking ⊆ recovery) :
      isTellable answer = true ∧
        ∀ refusal, answer = .error refusal → refusal.isDatabase = true :=
    ⟨(warns.isWritable_iff statement).mp fun exchange inside =>
        writable exchange (by simp [part inside]),
      warns.isDatabase fun exchange inside => ofDatabase exchange (by simp [part inside])⟩
  rcases recovers.exists_rollback database shown told with ⟨asking, answer, undone, warns, rfl⟩
  have noEarlier : (before ++ .asked action (.error fault) :: asking).countP
      (asks .rollback) = 0 := by
    have quiet : asks .rollback (.asked action (.error fault)) = false := by
      rcases either with rfl | rfl <;> simp [asks]
    simp [List.countP_append, none, quiet, warns.countP_asks]
  have asked : (before ++ .asked action (.error fault) :: asking).any
      (asks (.execute showWarnings)) = true := by
    have counted := warns.countP_asks (.execute showWarnings)
    rw [if_pos rfl] at counted
    have positive : 0 < asking.countP (asks (.execute showWarnings)) := by omega
    rcases List.countP_pos_iff.mp positive with ⟨exchange, inside, asks⟩
    exact List.any_eq_true.mpr ⟨exchange, by simp [inside], asks⟩
  have shape : before ++ .asked action (.error fault) :: (asking ++ [.asked .rollback undone]) =
      (before ++ .asked action (.error fault) :: asking) ++ [.asked .rollback undone] := by simp
  rw [shape]
  constructor
  · rw [List.countP_append, noEarlier]
    simp [asks]
  · exact Dialogue.follows_of_lead noEarlier asked

end Transacts

/-! ### The whole call -/

theorem onLeaving_eq_ok_iff {left : Except Fault Int} {result : Except Fault Outcome}
    {outcome : Outcome} :
    onLeaving left result = .ok outcome ↔ left.isOk = true ∧ result = .ok outcome := by
  cases left <;> simp [onLeaving, Except.isOk, Except.toBool]

/-- What is known of a dialogue before its transaction. -/
structure Led (parameters : Parameters) (rowCount : Nat) (statement : Text) (lead : Dialogue) :
    Prop where
  begins : statement.head? = some 'I'
  around : ∀ exchange ∈ lead, exchange.surrounds (preparation parameters rowCount) = true
  unleft : lead.countP (asks .leaveCursor) = 0
  prepared : ∀ known ∈ preparation parameters rowCount,
    lead.any (completes (.execute known)) = true

namespace Led

variable {lead rest transaction : Dialogue} {left : Except Fault Int}

theorem noStatement (led : Led parameters rowCount statement lead) :
    lead.countP (asks (.execute statement)) = 0 :=
  Dialogue.countP_asks_of_surrounds led.around
    (surrounds_eq_false_of_begins led.begins parameters rowCount)

theorem noCommit (led : Led parameters rowCount statement lead) :
    lead.countP (asks .commit) = 0 :=
  Dialogue.countP_asks_of_surrounds led.around rfl

theorem noRollback (led : Led parameters rowCount statement lead) :
    lead.countP (asks .rollback) = 0 :=
  Dialogue.countP_asks_of_surrounds led.around rfl

theorem noLimit (led : Led parameters rowCount statement lead)
    (ordinary : ¬ (parameters.user = administrator ∧ largeBatch < rowCount)) :
    lead.countP (asks (.execute raisePacketLimit)) = 0 :=
  Dialogue.countP_asks_of_surrounds led.around (limit_surrounds_eq_false ordinary)

theorem noWarnings (led : Led parameters rowCount statement lead) : statement ≠ showWarnings :=
  ne_of_begins led.begins (by decide)

theorem follows_prepared (led : Led parameters rowCount statement lead) {known : Text}
    (member : known ∈ preparation parameters rowCount) :
    Dialogue.Follows (lead ++ rest) (asks (.execute statement)) (completes (.execute known)) :=
  Dialogue.follows_of_lead led.noStatement (led.prepared known member)

theorem follows_limit (led : Led parameters rowCount statement lead)
    (large : parameters.user = administrator ∧ largeBatch < rowCount) :
    Dialogue.Follows (lead ++ rest) (asks (.execute statement))
      (completes (.execute raisePacketLimit)) :=
  led.follows_prepared (by simp [preparation, large])

/-- Statement and commit are asked for within the transaction only. -/
theorem mem_iff (led : Led parameters rowCount statement lead) {action : Action}
    (either : action = .execute statement ∨ action = .commit) (answer : Except Fault Int) :
    .asked action answer ∈ lead ++ (transaction ++ [.asked .leaveCursor left]) ↔
      .asked action answer ∈ transaction := by
  have outside : .asked action answer ∉ lead := by
    rcases either with rfl | rfl
    · exact Dialogue.asked_not_mem_of_none led.noStatement _
    · exact Dialogue.asked_not_mem_of_none led.noCommit _
  have inner : action ≠ .leaveCursor := by rcases either with rfl | rfl <;> simp
  simp [outside, inner]

/-- The commit, the rollback and the end of the cursor stand each in their own place. -/
theorem any_completes (led : Led parameters rowCount statement lead)
    (unleft : transaction.countP (asks .leaveCursor) = 0) :
    let whole := lead ++ (transaction ++ [.asked .leaveCursor left])
    whole.any (completes .commit) = transaction.any (completes .commit) ∧
      whole.any (completes .rollback) = transaction.any (completes .rollback) ∧
      whole.any (completes .leaveCursor) = left.isOk := by
  have commit := Dialogue.any_completes_of_none led.noCommit
  have rollback := Dialogue.any_completes_of_none led.noRollback
  have leave := Dialogue.any_completes_of_none led.unleft
  have inner := Dialogue.any_completes_of_none unleft
  cases left <;>
    simp [commit, rollback, leave, inner, completes, Except.isOk, Except.toBool]

end Led

/-- A call with a transaction. -/
theorem protocol_of_transacted {lead transaction : Dialogue} {left : Except Fault Int}
    {result : Except Fault Outcome} (led : Led parameters rowCount statement lead)
    (transacts : Transacts statement transaction result)
    (ofDatabase : ∀ exchange ∈ transaction, exchange.isOfDatabase = true) :
    Protocol parameters rowCount statement (lead ++ (transaction ++ [.asked .leaveCursor left]))
      (onLeaving left result) := by
  have noLimit : statement ≠ raisePacketLimit := ne_of_begins led.begins (by decide)
  have unleft : transaction.countP (asks .leaveCursor) = 0 :=
    transacts.countP_asks (by simp) (by simp) (by simp) (by simp)
  rcases @led.any_completes _ _ _ _ transaction left unleft with ⟨commits, rollbacks, leaves⟩
  constructor
  case sent_once =>
    simp [List.countP_append, led.noStatement, transacts.countP_statement led.noWarnings, asks]
  case checks_disabled => exact led.follows_prepared List.mem_cons_self
  case limit_raised => exact led.follows_limit
  case limit_kept =>
    intro ordinary
    have none : transaction.countP (asks (.execute raisePacketLimit)) = 0 :=
      transacts.countP_asks (by simpa using noLimit.symm) (by simp) (by decide) (by simp)
    simp [List.countP_append, led.noLimit ordinary, none, asks]
  case committed_once =>
    have once := transacts.countP_commit_le
    simpa [List.countP_append, led.noCommit, asks] using once
  case commit_follows =>
    exact (transacts.commit_follows.append_right (by simp [asks])).append_left led.noCommit
  case success_iff =>
    rw [commits, leaves]
    simp only [led.mem_iff (.inl rfl), onLeaving_eq_ok_iff, exists_and_left,
      transacts.success_iff led.noWarnings]
    exact and_comm.trans and_assoc
  case failure_iff =>
    rw [rollbacks, leaves]
    simp only [onLeaving_eq_ok_iff, exists_and_left, transacts.failure_iff]
    exact and_comm
  case recovered =>
    intro action either fault member
    rcases transacts.recovered led.noWarnings either ((led.mem_iff either _).mp member) with
      ⟨before, recovery, rfl, none, recovers⟩
    exact ⟨lead ++ before, recovery, result, left, by simp, by simp [led.noRollback, none],
      recovers, rfl⟩
  case undone =>
    intro writable action either fault member
    rcases transacts.undone led.noWarnings ofDatabase
      (fun exchange inside => writable exchange (by simp [inside])) either
      ((led.mem_iff either _).mp member) with ⟨once, follows⟩
    constructor
    · simp [List.countP_append, led.noRollback, once, asks]
    · exact (follows.append_right (by simp [asks])).append_left led.noRollback

end Courses

/-- A call whose statement could be written keeps the protocol, provided that only the
database refuses anything. -/
theorem Course.protocol {parameters : Parameters} {rowCount : Nat} {statement : Text}
    {dialogue : Dialogue} {result : Except Fault Outcome}
    (course : Course (preparation parameters rowCount) statement dialogue result)
    (begins : statement.head? = some 'I')
    (ofDatabase : ∀ exchange ∈ dialogue, exchange.isOfDatabase = true) :
    Protocol parameters rowCount statement dialogue result := by
  cases course with
  | stopped around => exact protocol_of_stopped begins around
  | transacted around unleft prepared transacts =>
      exact protocol_of_transacted ⟨begins, around, unleft, prepared⟩ transacts
        fun exchange member => ofDatabase exchange (by simp [member])

/-! ## Calls one after another -/

/-- Batches are delivered one after another over the same session, whatever becomes of
each. -/
def Session.calls {State : Type u} (server : Server State) (opening : Session.Opening State)
    (parameters : Parameters) :
    List Batch → Session State → List (Batch × Except Fault Outcome) × Session State
  | [], session => ([], session)
  | batch :: rest, session =>
      let (outcome, session) := session.insert server opening parameters batch
      let (later, session) := calls server opening parameters rest session
      ((batch, outcome) :: later, session)

/-- A call keeps the protocol; if its statement cannot be written, nothing is said. -/
def Keeps (parameters : Parameters) (call : Batch × Except Fault Outcome)
    (dialogue : Dialogue) : Prop :=
  match call.1.statement with
  | .error fault => dialogue = [] ∧ call.2 = .error fault
  | .ok statement => Protocol parameters call.1.rows.length statement dialogue call.2

section Calls

variable {State : Type u} {server : Server State} {opening : Session.Opening State}

theorem insert_keeps (honest : OnlyConnects server opening)
    (database : server.RefusesAsDatabase) (parameters : Parameters) (batch : Batch)
    (session : Session State) :
    ∃ dialogue, Leads server session dialogue (session.insert server opening parameters batch).2 ∧
      Keeps parameters (batch, (session.insert server opening parameters batch).1) dialogue := by
  rcases Session.insert_calls honest parameters batch session with ⟨dialogue, leads, calls⟩
  refine ⟨dialogue, leads, ?_⟩
  generalize (session.insert server opening parameters batch).1 = result at calls ⊢
  simp only [Keeps]
  split
  · rename_i fault unwritten
    cases calls with
    | unwritable found =>
        rw [unwritten] at found
        cases found
        exact ⟨rfl, rfl⟩
    | unconnected written | cursorless written | worked written =>
        rw [unwritten] at written
        cases written
  · rename_i statement written
    exact (calls.course written).protocol (statement_begins written)
      (leads.held.isOfDatabase database)

/-- However often a batch is delivered and whatever the database refuses, every call keeps
the protocol. -/
theorem every_call_keeps_protocol (honest : OnlyConnects server opening)
    (database : server.RefusesAsDatabase) (parameters : Parameters) (batches : List Batch)
    (session : Session State) :
    (session.calls server opening parameters batches).1.map Prod.fst = batches ∧
      ∃ dialogues : List Dialogue,
        Leads server session dialogues.flatten
          (session.calls server opening parameters batches).2 ∧
        List.Forall₂ (Keeps parameters) (session.calls server opening parameters batches).1
          dialogues := by
  induction batches generalizing session with
  | nil => exact ⟨rfl, [], .silent session, .nil⟩
  | cons batch rest induction =>
      rcases insert_keeps honest database parameters batch session with
        ⟨dialogue, leads, keeps⟩
      rcases induction (session.insert server opening parameters batch).2 with
        ⟨batches, dialogues, later, kept⟩
      refine ⟨?_, dialogue :: dialogues, ?_, ?_⟩
      · simp only [Session.calls, List.map_cons, batches]
      · simpa only [Session.calls, List.flatten_cons] using leads.append later
      · exact .cons keeps kept

end Calls

/-! ## Servers that refuse one action -/

/-- A server that refuses one kind of action with the same fault, so many times. -/
def refusing (refused : Action) (fault : Fault) : Server Nat where
  perform action times :=
    if action = refused ∧ 0 < times then (.error fault, times - 1) else (.ok 1, times)
  fetch times := (.ok [[.text "Warning", .text "retry"]], times)

theorem refusing_refusesAsDatabase (refused : Action) {fault : Fault}
    (database : fault.isDatabase = true) : (refusing refused fault).RefusesAsDatabase where
  perform := by
    intro action times other _ answered
    simp only [refusing] at answered
    split at answered
    · cases answered
      exact database
    · cases answered
  fetch := by rintro times fault ⟨⟩

def deadlock : Fault :=
  .failed ⟨.database .operational, [.text "Deadlock"], none⟩

/-- The first commit is refused, the second is not. -/
theorem calls_around_refused_commit :
    let server := refusing .commit deadlock
    let parameters : Parameters := ⟨"localhost", 3306, "root", "", "shop", "utf8mb4"⟩
    let batch : Batch := ⟨"t", [.text "`a`"], [[.text "1"]]⟩
    let calls := (Session.start 1).calls server (Session.connect server parameters) parameters
      [batch, batch]
    calls.1.map (fun call => call.2.toOption.map (·.success)) = [some false, some true] ∧
      calls.1.map Prod.fst = [batch, batch] ∧
      ∃ dialogues : List Dialogue,
        Leads server (Session.start 1) dialogues.flatten calls.2 ∧
        List.Forall₂ (Keeps parameters) calls.1 dialogues := by
  intro server parameters batch calls
  exact ⟨by decide +kernel, every_call_keeps_protocol (onlyConnects_connect _ _)
    (refusing_refusesAsDatabase _ rfl) _ _ _⟩

/-- A statement is refused by the database with a number that is too long to be written.  The
warnings are not asked for, nothing is rolled back, and what is raised is no error of the
database. -/
theorem unwritable_error_is_not_undone :
    let statement : Text := "INSERT INTO `t` (`a`) VALUES (1)"
    let parameters : Parameters := ⟨"localhost", 3306, "root", "", "shop", "utf8mb4"⟩
    let batch : Batch := ⟨"t", [.text "`a`"], [[.text "1"]]⟩
    let number : Nat := Nat.pow 10 Decimal.digitLimit
    let fault : Fault := .failed ⟨.database .data, [.integer number, .text "x"], none⟩
    let server := refusing (.execute statement) fault
    let call := (Session.start 1).insert server (Session.connect server parameters) parameters
      batch
    server.RefusesAsDatabase ∧ batch.statement = .ok statement ∧ call.1 = .error .numberTooLong ∧
      call.2.transcript = [.acted (.connect parameters) true, .acted .cursor true,
        .acted (.execute disableKeyChecks) true, .acted (.execute statement) false,
        .acted .leaveCursor true] := by
  intro statement parameters batch number fault server call
  have long : Decimal.isTooLong number = true := Decimal.isTooLong_natCast (Nat.le_refl _)
  clear_value number
  have database : fault.isDatabase = true := rfl
  have unwritten : errorLine fault = .error .numberTooLong := by
    simp [fault, errorLine, bars, Fault.arguments, Datum.areWritable, Datum.isWritable, long]
  clear_value fault
  let sent : Session Nat := {
    server := 0
    connected := true
    transcript := [.acted (.connect parameters) true, .acted .cursor true,
      .acted (.execute disableKeyChecks) true, .acted (.execute statement) false]
    records := [] }
  have called : call =
      let recovered := sent.recover server "t" fault
      let left := recovered.2.act server .leaveCursor
      (onLeaving left.1 recovered.1, left.2) := rfl
  rw [Session.recover_of_unwritten server "t" database unwritten] at called
  exact ⟨refusing_refusesAsDatabase _ database, rfl, by rw [called]; rfl, by rw [called]; rfl⟩

end Database

end SchemaSeed
