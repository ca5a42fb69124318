import SchemaSeed.Proofs.Database.Protocol
import SchemaSeed.Proofs.RowSet.Statement

/-! What a caller learns of a batch that is sent over a connection already held.  A refused
statement and a refused commit are reported, the error of the database in front; a refusal
of the cursor, of what prepares the statement, of the rollback or of leaving the cursor is
raised instead, and so is that a number of the report cannot be written. -/

namespace SchemaSeed

namespace Database

universe u

/-- The actions whose refusal nothing in a call deals with. -/
def Action.isUnguarded (preparation : List Text) : Action → Bool
  | .cursor | .rollback => true
  | .execute statement => preparation.contains statement
  | .connect _ | .leaveCursor | .commit | .close => false

/-- The actions that make up the transaction itself. -/
def Action.transacts (statement : Text) : Action → Bool
  | .execute sent => sent == statement
  | .commit => true
  | .connect _ | .cursor | .leaveCursor | .rollback | .close => false

/-! ## Calls over a held connection -/

/-- The dialogue of a call, from its cursor on. -/
inductive Serves (preparation : List Text) (statement : Text) :
    Dialogue → Except Fault Outcome → Prop
  | cursorless {fault : Fault} :
      Serves preparation statement [.asked .cursor (.error fault)] (.error fault)
  | worked {work : Dialogue} {count : Int} {left : Except Fault Int}
      {result : Except Fault Outcome} (works : Works preparation statement work result) :
      Serves preparation statement
        (.asked .cursor (.ok count) :: (work ++ [.asked .leaveCursor left]))
        (onLeaving left result)

theorem Session.insert_serves {State : Type u} (server : Server State) (opening : Opening State)
    (parameters : Parameters) {batch : Batch} {statement : Text}
    (written : batch.statement = .ok statement) {session : Session State}
    (held : session.connected = true) :
    ∃ dialogue, Leads server session dialogue (session.insert server opening parameters batch).2 ∧
      Serves (preparation parameters batch.rows.length) statement dialogue
        (session.insert server opening parameters batch).1 := by
  rcases opened : session.act server .cursor with ⟨answer, within⟩
  simp only [insert, written, ensureConnected, held, if_true, opened]
  cases answer with
  | error fault => exact ⟨_, Leads.act opened, .cursorless⟩
  | ok count =>
      rcases withinCursor_works server (preparation parameters batch.rows.length) batch.table
        statement within with ⟨work, during, works⟩
      rcases worked : within.withinCursor server (preparation parameters batch.rows.length)
        batch.table statement with ⟨outcome, finished⟩
      rw [worked] at during works
      rcases left : finished.act server .leaveCursor with ⟨answer, final⟩
      have whole := ((Leads.act opened).append during).append (Leads.act left)
      have served := @Serves.worked _ _ _ count answer _ works
      simp only [worked, left]
      cases answer with
      | error fault => exact ⟨_, whole, served⟩
      | ok count => exact ⟨_, whole, served⟩

/-! ## Reports -/

/-- Something of the report cannot be written: the number of rows that were committed, or
what belongs to the report of a failure. -/
inductive Unwritable (statement : Text) (dialogue : Dialogue) : Prop
  | count {affected : Int} (sent : .asked (.execute statement) (.ok affected) ∈ dialogue)
      (committed : dialogue.any (Exchange.completes .commit) = true)
      (long : Decimal.isTooLong affected = true)
  | failure {exchange : Exchange} (member : exchange ∈ dialogue)
      (unwritable : exchange.isWritable statement = false)

/-- What the result of a call says about its dialogue, as long as the cursor can be left.  It
is raised exactly if an unguarded action was refused or the report cannot be written, and it
is a success exactly if nothing was refused and the report can be written.  A failure is
reported with the error of the statement or of the commit in front, unless the rollback is
refused too. -/
structure Tells (preparation : List Text) (statement : Text) (dialogue : Dialogue)
    (result : Except Fault Outcome) : Prop where
  raises_iff : ∀ fault, result = .error fault ↔
    (∃ action, action.isUnguarded preparation = true ∧ .asked action (.error fault) ∈ dialogue) ∨
      fault = .numberTooLong ∧ Unwritable statement dialogue
  succeeds_iff : (∃ detail, result = .ok ⟨true, detail⟩) ↔
    (∀ action fault, .asked action (.error fault) ∉ dialogue) ∧ ¬ Unwritable statement dialogue
  reported : ∀ action fault, action.transacts statement = true →
    .asked action (.error fault) ∈ dialogue → ¬ Unwritable statement dialogue →
      ∃ line, errorLine fault = .ok line ∧
        ((∃ lines, result = .ok ⟨false, Text.join "\n" (line :: lines)⟩) ∨
          ∃ refusal, .asked .rollback (.error refusal) ∈ dialogue ∧ result = .error refusal)
  explained : ∀ detail, result = .ok ⟨false, detail⟩ → ∃ action fault line lines,
    action.transacts statement = true ∧ .asked action (.error fault) ∈ dialogue ∧
      errorLine fault = .ok line ∧ detail = Text.join "\n" (line :: lines)

/-- What the result of a call says about its dialogue.  If the cursor cannot be left, it says
this and nothing else. -/
structure Reports (preparation : List Text) (statement : Text) (dialogue : Dialogue)
    (result : Except Fault Outcome) : Prop where
  stuck : ∀ refusal, .asked .leaveCursor (.error refusal) ∈ dialogue → result = .error refusal
  told : (∀ refusal, .asked .leaveCursor (.error refusal) ∉ dialogue) →
    Tells preparation statement dialogue result

/-! ## What stands around a transaction -/

/-- A completed action besides statement and commit. -/
def Exchange.isQuiet (statement : Text) : Exchange → Bool
  | asked action (.ok _) => !action.transacts statement
  | _ => false

section Around

variable {preparation : List Text} {statement : Text}

theorem Exchange.refused_not_isQuiet (action : Action) (fault : Fault) :
    (Exchange.asked action (.error fault)).isQuiet statement = false := rfl

theorem Exchange.isWritable_of_isQuiet {exchange : Exchange}
    (quiet : exchange.isQuiet statement = true) : exchange.isWritable statement = true := by
  cases exchange with
  | asked action answer =>
      cases answer with
      | error fault => cases quiet
      | ok count => cases action <;> rfl
  | fetched answer => cases quiet
  | paused seconds => cases quiet

theorem Exchange.completes_commit_of_isQuiet {exchange : Exchange}
    (quiet : exchange.isQuiet statement = true) : exchange.completes .commit = false := by
  cases exchange with
  | asked action answer =>
      cases answer with
      | error fault => rfl
      | ok count => cases action <;> first | rfl | cases quiet
  | fetched answer => rfl
  | paused seconds => rfl

/-- Quiet exchanges around a dialogue. -/
structure Around (statement : Text) (front back : Dialogue) : Prop where
  front : ∀ exchange ∈ front, exchange.isQuiet statement = true
  back : ∀ exchange ∈ back, exchange.isQuiet statement = true

namespace Around

variable {front back middle : Dialogue} (around : Around statement front back)

include around

theorem mem_iff {exchange : Exchange} (loud : exchange.isQuiet statement = false) :
    exchange ∈ front ++ (middle ++ back) ↔ exchange ∈ middle := by
  have outsideFront : exchange ∉ front := fun member => by
    cases loud.symm.trans (around.front exchange member)
  have outsideBack : exchange ∉ back := fun member => by
    cases loud.symm.trans (around.back exchange member)
  simp [outsideFront, outsideBack]

theorem any_completes_commit :
    (front ++ (middle ++ back)).any (Exchange.completes .commit) =
      middle.any (Exchange.completes .commit) := by
  have none {part : Dialogue} (quiet : ∀ exchange ∈ part, exchange.isQuiet statement = true) :
      part.any (Exchange.completes .commit) = false := by
    rw [List.any_eq_false]
    intro exchange member
    rw [Exchange.completes_commit_of_isQuiet (quiet exchange member)]
    exact Bool.false_ne_true
  rw [List.any_append, List.any_append, none around.front, none around.back, Bool.or_false,
    Bool.false_or]

theorem unwritable_iff :
    Unwritable statement (front ++ (middle ++ back)) ↔ Unwritable statement middle := by
  have sent (affected : Int) :
      (Exchange.asked (.execute statement) (.ok affected)).isQuiet statement = false := by
    simp [Exchange.isQuiet, Action.transacts]
  constructor
  · rintro (⟨member, committed, long⟩ | ⟨member, unwritable⟩)
    · exact .count ((around.mem_iff (sent _)).mp member)
        (around.any_completes_commit.symm.trans committed) long
    · refine .failure ((around.mem_iff ?_).mp member) unwritable
      refine eq_false_of_ne_true fun quiet => ?_
      cases unwritable.symm.trans (Exchange.isWritable_of_isQuiet quiet)
  · rintro (⟨member, committed, long⟩ | ⟨member, unwritable⟩)
    · exact .count ((around.mem_iff (sent _)).mpr member)
        (around.any_completes_commit.trans committed) long
    · exact .failure (by simp [member]) unwritable

/-- What is said of a dialogue is said of it with quiet exchanges around it. -/
theorem tells {result : Except Fault Outcome} (tells : Tells preparation statement middle result) :
    Tells preparation statement (front ++ (middle ++ back)) result := by
  have refused (action : Action) (fault : Fault) :
      .asked action (.error fault) ∈ front ++ (middle ++ back) ↔
        .asked action (.error fault) ∈ middle :=
    around.mem_iff (Exchange.refused_not_isQuiet action fault)
  constructor
  · simpa only [refused, around.unwritable_iff] using tells.raises_iff
  · simpa only [refused, around.unwritable_iff] using tells.succeeds_iff
  · simpa only [refused, around.unwritable_iff] using tells.reported
  · simpa only [refused] using tells.explained

end Around

end Around

/-! ## Parts of a call -/

theorem Prepares.isQuiet {statements : List Text} {dialogue : Dialogue} {statement : Text}
    (prepares : Prepares statements dialogue (.ok ())) (apart : statement ∉ statements) :
    ∀ exchange ∈ dialogue, exchange.isQuiet statement = true := by
  generalize done : Except.ok () = result at prepares
  induction prepares with
  | done => simp
  | refused => cases done
  | sent later induction =>
      rw [List.mem_cons, not_or] at apart
      rw [List.forall_mem_cons]
      exact ⟨by simp [Exchange.isQuiet, Action.transacts, Ne.symm apart.1],
        induction apart.2 done⟩

/-- What prepares a statement completes up to the first refusal. -/
theorem Prepares.exists_refused {statements : List Text} {dialogue : Dialogue} {statement : Text}
    {fault : Fault} (prepares : Prepares statements dialogue (.error fault))
    (apart : statement ∉ statements) :
    ∃ front, ∃ known ∈ statements, dialogue = front ++ [.asked (.execute known) (.error fault)] ∧
      ∀ exchange ∈ front, exchange.isQuiet statement = true := by
  generalize failed : Except.error fault = result at prepares
  induction prepares with
  | done => cases failed
  | @refused known =>
      cases failed
      exact ⟨[], known, List.mem_cons_self, rfl, by simp⟩
  | @sent first _ count _ _ later induction =>
      rw [List.mem_cons, not_or] at apart
      rcases induction apart.2 failed with ⟨front, known, member, rfl, quiet⟩
      refine ⟨.asked (.execute first) (.ok count) :: front, known, List.mem_cons_of_mem _ member,
        rfl, ?_⟩
      rw [List.forall_mem_cons]
      exact ⟨by simp [Exchange.isQuiet, Action.transacts, Ne.symm apart.1], quiet⟩

/-- Once the lines on a failure are written, nothing that was asked for them is unwritable, and
what follows is the rollback. -/
theorem Warns.rollback_of_written {asking : Dialogue} {answer : Except Fault (List (List Datum))}
    {line : Text} {lines : List Text} (warns : Warns asking answer)
    (written : linesWith line answer = .ok lines) (statement : Text) (undone : Except Fault Int)
    (ofDatabase : ∀ exchange ∈ asking ++ [.asked .rollback undone],
      exchange.isOfDatabase = true) :
    (∀ exchange ∈ asking ++ [.asked .rollback undone], exchange.isWritable statement = true) ∧
      ∀ refusal, .asked .rollback (.error refusal) ∈ asking ++ [.asked .rollback undone] ↔
        undone = .error refusal := by
  have asked : ∀ exchange ∈ asking, exchange.isOfDatabase = true :=
    fun exchange member => ofDatabase exchange (by simp [member])
  have tellable : isTellable answer = true := by
    rcases linesWith_cases line (warns.isDatabase asked) with ⟨tellable, -⟩ | ⟨-, unwritten⟩
    · exact tellable
    · cases written.symm.trans unwritten
  have unasked : asking.countP (Exchange.asks .rollback) = 0 := by simp [warns.countP_asks]
  have outside := Dialogue.asked_not_mem_of_none unasked
  rw [List.forall_mem_append, List.forall_mem_singleton]
  exact ⟨⟨(warns.isWritable_iff statement).mpr tellable, rfl⟩, by simp [outside, eq_comm]⟩

/-- The recovery from an error of the database: either something of the report cannot be
written, which is what is raised, or all of it can, and the answer to the rollback decides. -/
theorem Recovers.cases_of_database {fault : Fault} {dialogue : Dialogue}
    {result : Except Fault Outcome} (recovery : Recovers fault dialogue result)
    (database : fault.isDatabase = true) (statement : Text)
    (ofDatabase : ∀ exchange ∈ dialogue, exchange.isOfDatabase = true) :
    (¬ (fault.text.isOk = true ∧ ∀ exchange ∈ dialogue, exchange.isWritable statement = true) ∧
      result = .error .numberTooLong ∧ dialogue.countP (Exchange.asks .rollback) = 0) ∨
    ((fault.text.isOk = true ∧ ∀ exchange ∈ dialogue, exchange.isWritable statement = true) ∧
      ∃ (line : Text) (more : List Text) (undone : Except Fault Int), errorLine fault = .ok line ∧
        (∀ refusal, .asked .rollback (.error refusal) ∈ dialogue ↔ undone = .error refusal) ∧
        result = undone.map fun _ => ⟨false, Text.join "\n" (line :: more)⟩) := by
  have shown {line : Text} (first : errorLine fault = .ok line) : fault.text.isOk = true := by
    rcases errorLine_cases database with ⟨sentence, -, written, -⟩ | ⟨-, unwritten⟩
    · rw [written]
      rfl
    · cases first.symm.trans unwritten
  cases recovery with
  | foreign foreign => cases foreign.symm.trans database
  | unwritten _ first =>
      rcases errorLine_cases database with ⟨-, line, -, written⟩ | ⟨silent, unwritten⟩
      · cases first.symm.trans written
      · cases first.symm.trans unwritten
        refine .inl ⟨fun writable => ?_, rfl, rfl⟩
        rw [silent] at writable
        cases writable.1
  | @untold asking answer line refusal _ first warns unwritten =>
      rcases linesWith_cases line (warns.isDatabase ofDatabase) with
        ⟨-, more, told⟩ | ⟨untellable, told⟩
      · cases unwritten.symm.trans told
      · cases unwritten.symm.trans told
        refine .inl ⟨fun writable => ?_, rfl, by simp [warns.countP_asks]⟩
        cases untellable.symm.trans ((warns.isWritable_iff statement).mp writable.2)
  | @stuck asking answer line lines refusal _ first warns written =>
      rcases warns.rollback_of_written written statement (.error refusal) ofDatabase with
        ⟨writable, rolledBack⟩
      exact .inr ⟨⟨shown first, writable⟩, line, [], .error refusal, first, rolledBack, rfl⟩
  | @undone asking answer line lines count _ first warns written =>
      rcases warns.rollback_of_written written statement (.ok count) ofDatabase with
        ⟨writable, rolledBack⟩
      rcases exists_cons_of_linesWith written with ⟨more, rfl⟩
      exact .inr ⟨⟨shown first, writable⟩, line, more, .ok count, first, rolledBack, rfl⟩

section Parts

variable {preparation : List Text} {statement : Text}

/-- The refusal of an unguarded action is raised. -/
theorem tells_of_unguarded {action : Action} (fault : Fault)
    (unguarded : action.isUnguarded preparation = true)
    (apart : action.transacts statement = false) (noWarnings : action ≠ .execute showWarnings) :
    Tells preparation statement [.asked action (.error fault)] (.error fault) := by
  have written : (Exchange.asked action (.error fault)).isWritable statement = true := by
    cases action with
    | execute sent =>
        have other : sent ≠ statement := by simpa [Action.transacts] using apart
        have noWarnings : sent ≠ showWarnings := by simpa using noWarnings
        simp [Exchange.isWritable, other, noWarnings]
    | commit => cases apart
    | _ => rfl
  have writable : ¬ Unwritable statement [.asked action (.error fault)] := by
    rintro (⟨member, -, -⟩ | ⟨member, unwritable⟩)
    · simp at member
    · rw [List.mem_singleton.mp member, written] at unwritable
      cases unwritable
  constructor
  · intro raised
    constructor
    · rintro ⟨⟩
      exact .inl ⟨action, unguarded, List.mem_singleton_self _⟩
    · rintro (⟨other, -, refused⟩ | ⟨-, unwritable⟩)
      · cases List.mem_singleton.mp refused
        rfl
      · exact absurd unwritable writable
  · refine iff_of_false (by simp) fun nothing => ?_
    exact nothing.1 action fault (List.mem_singleton_self _)
  · intro other refusal transacts refused
    cases List.mem_singleton.mp refused
    cases apart.symm.trans transacts
  · rintro detail ⟨⟩

theorem tells_of_committed (affected count : Int) :
    Tells preparation statement
      [.asked (.execute statement) (.ok affected), .asked .commit (.ok count)]
      (success affected) := by
  have unwritable_iff : Unwritable statement
      [.asked (.execute statement) (.ok affected), .asked .commit (.ok count)] ↔
        Decimal.isTooLong affected = true := by
    constructor
    · rintro (@⟨other, member, -, long⟩ | ⟨member, unwritable⟩)
      · have same : other = affected := by simpa using member
        exact same ▸ long
      · rw [List.mem_pair] at member
        rcases member with rfl | rfl <;> cases unwritable
    · exact fun long => .count (by simp) (by simp [Exchange.completes]) long
  rcases success_cases affected with ⟨short, detail, told⟩ | ⟨long, told⟩
  · rw [told]
    constructor <;> simp [unwritable_iff, short]
  · rw [told]
    constructor
    · intro fault
      simp only [unwritable_iff, long, and_true]
      constructor
      · rintro ⟨⟩
        exact .inr rfl
      · rintro (⟨action, -, refused⟩ | rfl)
        · simp at refused
        · rfl
    · simp [unwritable_iff, long]
    · simp
    · rintro detail ⟨⟩

end Parts

/-! ### Failed transactions -/

/-- The statement of a batch is neither the request for the warnings nor among what prepares
it, and that request is not either. -/
structure Apart (preparation : List Text) (statement : Text) : Prop where
  unlisted : showWarnings ∉ preparation
  unprepared : statement ∉ preparation
  noWarnings : statement ≠ showWarnings

theorem apart_of_begins {statement : Text} (begins : statement.head? = some 'I')
    (parameters : Parameters) (rowCount : Nat) :
    Apart (preparation parameters rowCount) statement where
  unlisted := by
    simp only [preparation]
    split <;> decide
  unprepared := by
    have foreign := surrounds_eq_false_of_begins begins parameters rowCount
    simpa [Action.surrounds] using foreign
  noWarnings := ne_of_begins begins (by decide)

theorem Recovers.action_of_refused {fault refusal : Fault} {dialogue : Dialogue}
    {result : Except Fault Outcome} (recovers : Recovers fault dialogue result) {action : Action}
    (member : .asked action (.error refusal) ∈ dialogue) :
    action = .execute showWarnings ∨ action = .rollback := by
  by_contra neither
  rw [not_or] at neither
  have unasked := recovers.countP_asks neither.1 neither.2
  exact Dialogue.asked_not_mem_of_none unasked _ member

namespace Fails

variable {preparation : List Text} {statement : Text} {begun recovery : Dialogue}
  {action : Action} {fault : Fault} {result : Except Fault Outcome}

theorem transacts (fails : Fails statement begun action) : action.transacts statement = true := by
  cases fails <;> simp [Action.transacts]

theorem isUnguarded (fails : Fails statement begun action) (unprepared : statement ∉ preparation) :
    action.isUnguarded preparation = false := by
  cases fails <;> simp [Action.isUnguarded, unprepared]

theorem refused_iff (fails : Fails statement begun action) {other : Action} {refusal : Fault} :
    .asked other (.error refusal) ∈ begun ++ .asked action (.error fault) :: recovery ↔
      (other = action ∧ refusal = fault) ∨ .asked other (.error refusal) ∈ recovery := by
  cases fails <;> simp

theorem isWritable_iff (fails : Fails statement begun action) :
    (∀ exchange ∈ begun ++ [.asked action (.error fault)], exchange.isWritable statement = true) ↔
      fault.text.isOk = true := by
  cases fails <;> simp [Exchange.isWritable]

/-- The report of a failed transaction can be written if its error and what recovery finds
can be. -/
theorem unwritable_iff (fails : Fails statement begun action)
    (recovers : Recovers fault recovery result) :
    Unwritable statement (begun ++ .asked action (.error fault) :: recovery) ↔
      ¬ (fault.text.isOk = true ∧
        ∀ exchange ∈ recovery, exchange.isWritable statement = true) := by
  have noCommit : recovery.any (Exchange.completes .commit) = false :=
    Dialogue.any_completes_of_none (recovers.countP_asks (by simp) (by simp))
  have uncommitted : (begun ++ .asked action (.error fault) :: recovery).any
      (Exchange.completes .commit) = false := by
    cases fails <;> simp [Exchange.completes, noCommit]
  have all : (∀ exchange ∈ begun ++ .asked action (.error fault) :: recovery,
      exchange.isWritable statement = true) ↔
        fault.text.isOk = true ∧ ∀ exchange ∈ recovery, exchange.isWritable statement = true := by
    rw [← fails.isWritable_iff, ← List.forall_mem_append, List.append_assoc,
      List.singleton_append]
  rw [← all]
  constructor
  · rintro (⟨-, committed, -⟩ | ⟨member, unwritable⟩) writable
    · cases uncommitted.symm.trans committed
    · cases unwritable.symm.trans (writable _ member)
  · intro unwritten
    by_contra writable
    refine unwritten fun exchange member => by_contra fun unwritable => writable ?_
    exact .failure member (eq_false_of_ne_true unwritable)

/-- Of the unguarded actions only the rollback can be refused once the transaction has begun. -/
theorem rollback_of_unguarded (fails : Fails statement begun action)
    (apart : Apart preparation statement) (recovers : Recovers fault recovery result)
    {other : Action} {refusal : Fault} (unguarded : other.isUnguarded preparation = true)
    (refused : .asked other (.error refusal) ∈ begun ++ .asked action (.error fault) :: recovery) :
    .asked .rollback (.error refusal) ∈ recovery := by
  rcases fails.refused_iff.mp refused with ⟨rfl, -⟩ | later
  · cases (fails.isUnguarded apart.unprepared).symm.trans unguarded
  · rcases recovers.action_of_refused later with rfl | rfl
    · simp [Action.isUnguarded, apart.unlisted] at unguarded
    · exact later

/-- Of statement and commit only one is refused, and that once. -/
theorem eq_of_transacts (fails : Fails statement begun action)
    (apart : Apart preparation statement) (recovers : Recovers fault recovery result)
    {other : Action} {refusal : Fault} (transacts : other.transacts statement = true)
    (refused : .asked other (.error refusal) ∈ begun ++ .asked action (.error fault) :: recovery) :
    refusal = fault := by
  rcases fails.refused_iff.mp refused with ⟨-, same⟩ | later
  · exact same
  · rcases recovers.action_of_refused later with rfl | rfl
    · simp [Action.transacts, apart.noWarnings.symm] at transacts
    · cases transacts

/-- If something of the report cannot be written, this is raised and nothing is rolled back. -/
theorem tells_of_unwritten (fails : Fails statement begun action)
    (apart : Apart preparation statement)
    (recovers : Recovers fault recovery (.error .numberTooLong))
    (unwritten : ¬ (fault.text.isOk = true ∧
      ∀ exchange ∈ recovery, exchange.isWritable statement = true))
    (unasked : recovery.countP (Exchange.asks .rollback) = 0) :
    Tells preparation statement (begun ++ .asked action (.error fault) :: recovery)
      (.error .numberTooLong) := by
  have unwritable := (fails.unwritable_iff recovers).mpr unwritten
  constructor
  case raises_iff =>
    intro raised
    constructor
    · rintro ⟨⟩
      exact .inr ⟨rfl, unwritable⟩
    · rintro (⟨other, unguarded, refused⟩ | ⟨rfl, -⟩)
      · have asked := fails.rollback_of_unguarded apart recovers unguarded refused
        exact absurd asked (Dialogue.asked_not_mem_of_none unasked _)
      · rfl
  case succeeds_iff => exact iff_of_false (by simp) fun nothing => nothing.2 unwritable
  case reported => exact fun other refusal _ _ writable => absurd unwritable writable
  case explained => rintro detail ⟨⟩

/-- If the report can be written, the answer to the rollback decides. -/
theorem tells_of_written (fails : Fails statement begun action)
    (apart : Apart preparation statement) {line : Text} {more : List Text}
    {undone : Except Fault Int}
    (recovers : Recovers fault recovery
      (undone.map fun _ => ⟨false, Text.join "\n" (line :: more)⟩))
    (written : fault.text.isOk = true ∧
      ∀ exchange ∈ recovery, exchange.isWritable statement = true)
    (first : errorLine fault = .ok line)
    (rollback : ∀ refusal, .asked .rollback (.error refusal) ∈ recovery ↔
      undone = .error refusal) :
    Tells preparation statement (begun ++ .asked action (.error fault) :: recovery)
      (undone.map fun _ => ⟨false, Text.join "\n" (line :: more)⟩) := by
  have writable : ¬ Unwritable statement (begun ++ .asked action (.error fault) :: recovery) :=
    fun unwritable => (fails.unwritable_iff recovers).mp unwritable written
  have failed : .asked action (.error fault) ∈ begun ++ .asked action (.error fault) :: recovery :=
    fails.refused_iff.mpr (.inl ⟨rfl, rfl⟩)
  have raised {other : Action} {refusal : Fault} (unguarded : other.isUnguarded preparation = true)
      (refused : .asked other (.error refusal) ∈
        begun ++ .asked action (.error fault) :: recovery) : undone = .error refusal :=
    (rollback refusal).mp (fails.rollback_of_unguarded apart recovers unguarded refused)
  constructor
  case raises_iff =>
    intro refusal
    constructor
    · intro same
      cases undone with
      | ok count => cases same
      | error stuck =>
          cases same
          exact .inl ⟨.rollback, rfl, fails.refused_iff.mpr (.inr ((rollback refusal).mpr rfl))⟩
    · rintro (⟨other, unguarded, refused⟩ | ⟨-, unwritable⟩)
      · rw [raised unguarded refused]
        rfl
      · exact absurd unwritable writable
  case succeeds_iff =>
    refine iff_of_false ?_ fun nothing => nothing.1 action fault failed
    cases undone <;> simp [Except.map]
  case reported =>
    intro other known transacts refused _
    rw [fails.eq_of_transacts apart recovers transacts refused]
    refine ⟨line, first, ?_⟩
    cases undone with
    | ok count => exact .inl ⟨more, rfl⟩
    | error stuck =>
        exact .inr ⟨stuck, fails.refused_iff.mpr (.inr ((rollback stuck).mpr rfl)), rfl⟩
  case explained =>
    intro detail reported
    cases undone with
    | error stuck => cases reported
    | ok count =>
        cases reported
        exact ⟨action, fault, line, more, fails.transacts, failed, first, rfl⟩

/-- A transaction that fails is recovered from. -/
theorem tells (fails : Fails statement begun action) (apart : Apart preparation statement)
    (recovers : Recovers fault recovery result) (database : fault.isDatabase = true)
    (ofDatabase : ∀ exchange ∈ recovery, exchange.isOfDatabase = true) :
    Tells preparation statement (begun ++ .asked action (.error fault) :: recovery) result := by
  rcases recovers.cases_of_database database statement ofDatabase with
    ⟨unwritten, rfl, unasked⟩ | ⟨written, line, more, undone, first, rollback, rfl⟩
  · exact fails.tells_of_unwritten apart recovers unwritten unasked
  · exact fails.tells_of_written apart recovers written first rollback

end Fails

/-! ## All calls -/

section Served

variable {preparation : List Text} {statement : Text}

theorem Transacts.tells {transaction : Dialogue} {result : Except Fault Outcome}
    (transacts : Transacts statement transaction result)
    (apart : Apart preparation statement)
    (ofDatabase : ∀ exchange ∈ transaction, exchange.isOfDatabase = true) :
    Tells preparation statement transaction result := by
  rcases transacts.committed_or_failed with
    ⟨affected, count, rfl, same⟩ | ⟨begun, action, fault, recovery, rfl, fails, recovers⟩
  · rw [same]
    exact tells_of_committed affected count
  · have database : fault.isDatabase = true := by
      have refused := ofDatabase (.asked action (.error fault)) (by simp)
      cases fails <;> exact refused
    exact fails.tells apart recovers database fun exchange member =>
      ofDatabase exchange (by simp [member])

theorem Works.countP_leaveCursor {work : Dialogue} {result : Except Fault Outcome}
    (works : Works preparation statement work result) :
    work.countP (Exchange.asks .leaveCursor) = 0 := by
  cases works with
  | unprepared prepares => exact prepares.countP_asks (by simp)
  | transacted prepares transacts =>
      rw [List.countP_append, prepares.countP_asks (by simp),
        transacts.countP_asks (by simp) (by simp) (by simp) (by simp)]

/-- If the cursor can be left, the work on a batch is told of. -/
theorem Works.tells {work : Dialogue} {result : Except Fault Outcome}
    (works : Works preparation statement work result)
    (apart : Apart preparation statement)
    (ofDatabase : ∀ exchange ∈ work, exchange.isOfDatabase = true) (count left : Int) :
    Tells preparation statement
      (.asked .cursor (.ok count) :: (work ++ [.asked .leaveCursor (.ok left)])) result := by
  have back : ∀ exchange ∈ [Exchange.asked .leaveCursor (.ok left)],
      exchange.isQuiet statement = true := by
    rw [List.forall_mem_singleton]
    rfl
  have before {front : Dialogue} (quiet : ∀ exchange ∈ front, exchange.isQuiet statement = true) :
      ∀ exchange ∈ .asked .cursor (.ok count) :: front, exchange.isQuiet statement = true := by
    rw [List.forall_mem_cons]
    exact ⟨rfl, quiet⟩
  cases works with
  | @unprepared _ fault prepares =>
      rcases prepares.exists_refused apart.unprepared with ⟨front, known, member, rfl, quiet⟩
      have told := @tells_of_unguarded preparation statement (.execute known) fault
        (by simpa [Action.isUnguarded] using member)
        (by
          simp only [Action.transacts, beq_eq_false_iff_ne]
          rintro rfl
          exact apart.unprepared member)
        (by
          rw [ne_eq, Action.execute.injEq]
          rintro rfl
          exact apart.unlisted member)
      simpa using Around.tells ⟨before quiet, back⟩ told
  | transacted prepares transacts =>
      have told := transacts.tells apart fun exchange member =>
        ofDatabase exchange (by simp [member])
      simpa using Around.tells ⟨before (prepares.isQuiet apart.unprepared), back⟩ told

/-- If only the database refuses anything, a call over a held connection reports. -/
theorem Serves.reports {dialogue : Dialogue} {result : Except Fault Outcome}
    (serves : Serves preparation statement dialogue result)
    (apart : Apart preparation statement)
    (ofDatabase : ∀ exchange ∈ dialogue, exchange.isOfDatabase = true) :
    Reports preparation statement dialogue result := by
  cases serves with
  | @cursorless fault =>
      refine ⟨by simp, fun _ => tells_of_unguarded fault rfl rfl (by simp)⟩
  | @worked work count left inner works =>
      have outside := Dialogue.asked_not_mem_of_none works.countP_leaveCursor
      cases left with
      | error refusal =>
          refine ⟨by simp [outside, onLeaving, eq_comm], fun left => ?_⟩
          exact absurd (List.mem_cons_of_mem _ (List.mem_append_right _
            (List.mem_singleton_self _))) (left refusal)
      | ok left =>
          refine ⟨by simp [outside], fun _ => works.tells apart ?_ count left⟩
          exact fun exchange member => ofDatabase exchange (by simp [member])

end Served

section Calls

variable {State : Type u} {server : Server State}

/-- Rows sent over a held connection lead to a report of what happened: a refused statement or
commit is a failure whose detail starts with the error, whatever becomes of the warnings.
A fault is raised exactly if the cursor, a statement that prepares, the rollback or leaving the
cursor is refused, and it is the fault of that refusal, or if a number of the report is too
long to be written. -/
theorem held_call_reports_transaction (database : server.RefusesAsDatabase)
    (opening : Session.Opening State) (parameters : Parameters) (rowSet : RowSet)
    {session : Session State} (held : session.connected = true) :
    ∃ dialogue,
      Leads server session dialogue
        (session.insert server opening parameters rowSet.batch).2 ∧
      Reports (preparation parameters rowSet.rows.length) rowSet.statement dialogue
        (session.insert server opening parameters rowSet.batch).1 := by
  have written := rowSet.statement_batch
  rcases Session.insert_serves server opening parameters written held with
    ⟨dialogue, leads, serves⟩
  have rows : rowSet.batch.rows.length = rowSet.rows.length := List.length_map _
  rw [rows] at serves
  have apart := apart_of_begins (statement_begins written) parameters rowSet.rows.length
  exact ⟨dialogue, leads, serves.reports apart (leads.held.isOfDatabase database)⟩

end Calls

/-- A session with a connection, over a server that refuses one action once. -/
def holding : Session Nat :=
  (Session.start 1).hold true

/-- A refused commit is reported, with the warning of the server behind its error. -/
theorem held_call_reports_refused_commit :
    let server := refusing .commit deadlock
    let parameters : Parameters := ⟨"localhost", 3306, "root", "", "shop", "utf8mb4"⟩
    let rowSet : RowSet := ⟨"t", ["`a`"], [["1"]]⟩
    let call := holding.insert server (Session.connectOnce server parameters) parameters
      rowSet.batch
    call.1.toOption = some ⟨false, "Deadlock\nWarning | retry"⟩ ∧
      ∃ dialogue, Leads server holding dialogue call.2 ∧
        Reports (preparation parameters 1) rowSet.statement dialogue call.1 := by
  intro server parameters rowSet call
  exact ⟨by decide, held_call_reports_transaction (refusing_refusesAsDatabase _ rfl) _ _ _ rfl⟩

/-- A statement that only prepares is not guarded: its refusal is raised. -/
theorem refused_preparation_raises :
    let server := refusing (.execute disableKeyChecks) deadlock
    let parameters : Parameters := ⟨"localhost", 3306, "filler", "", "shop", "utf8mb4"⟩
    let rowSet : RowSet := ⟨"t", ["`a`"], [["1"]]⟩
    let call := holding.insert server (Session.connectOnce server parameters) parameters
      rowSet.batch
    server.RefusesAsDatabase ∧ holding.connected = true ∧ call.1 = .error deadlock ∧
      ¬ ∃ outcome, call.1 = .ok outcome := by
  intro server parameters rowSet call
  have raised : call.1 = .error deadlock := rfl
  refine ⟨refusing_refusesAsDatabase _ rfl, rfl, raised, ?_⟩
  rw [raised]
  rintro ⟨outcome, ⟨⟩⟩

end Database

end SchemaSeed
