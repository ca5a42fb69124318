import SchemaSeed.Proofs.Database.Protocol
import SchemaSeed.Proofs.Fill.Account
import SchemaSeed.Proofs.RowSet.Statement

/-! What the database stores.  A ledger is kept of the statements whose rows are pending
and of those whose rows are durable.  A call that commits makes its rows durable, and all
that was pending with them; every other call makes nothing durable.  As long as a failed
commit can always be undone and a completed one be told, a call says of its rows whether
they are durable, and leaves nothing pending. -/

namespace SchemaSeed

namespace Database

universe u

/-- The statements that stored rows, in order. -/
structure Ledger where
  pending : List Text
  durable : List Text
deriving Repr, DecidableEq

def insertsRows (statement : Text) : Bool :=
  Text.startsWith statement "INSERT INTO "

namespace Ledger

/-- A completed statement that inserts rows makes them pending, a commit makes all that is
pending durable, and a rollback discards it.  What fails changes nothing. -/
def enter (ledger : Ledger) : Event → Ledger
  | .acted (.execute statement) true =>
      if insertsRows statement then { ledger with pending := ledger.pending ++ [statement] }
      else ledger
  | .acted .commit true => ⟨[], ledger.durable ++ ledger.pending⟩
  | .acted .rollback true => { ledger with pending := [] }
  | _ => ledger

def enterAll (ledger : Ledger) (events : List Event) : Ledger :=
  events.foldl enter ledger

@[simp] theorem enterAll_append (ledger : Ledger) (first second : List Event) :
    ledger.enterAll (first ++ second) = (ledger.enterAll first).enterAll second :=
  List.foldl_append

end Ledger

def Session.ledger {State : Type u} (session : Session State) : Ledger :=
  Ledger.enterAll ⟨[], []⟩ session.transcript

theorem Leads.ledger {State : Type u} {server : Server State} {before after : Session State}
    {dialogue : Dialogue} (leads : Leads server before dialogue after) :
    after.ledger = before.ledger.enterAll dialogue.events := by
  rw [Session.ledger, leads.written, Ledger.enterAll_append, ← Session.ledger]

/-! ## Orderly answers -/

/-- A refusal that a call reports as a failed batch. -/
def isReported (fault : Fault) : Bool :=
  fault.isDatabase && fault.text.isOk

/-- An answer that is neither in the way of undoing a transaction nor in the way of telling that
it is stored: the commit and the warnings are refused by the database alone and in a way
that can be written, the rollback and the end of the cursor never, and warnings and numbers
of rows can be written. -/
def Exchange.orderly : Exchange → Bool
  | asked .commit (.error fault) => isReported fault
  | asked (.execute statement) (.error fault) => statement != showWarnings || isReported fault
  | asked (.execute statement) (.ok affected) =>
      !insertsRows statement || !Decimal.isTooLong affected
  | asked .rollback (.error _) | asked .leaveCursor (.error _) => false
  | fetched (.error fault) => isReported fault
  | fetched (.ok rows) => rows.all Datum.areWritable
  | _ => true

structure Server.Orderly {State : Type u} (server : Server State) : Prop where
  perform : ∀ action state, (Exchange.asked action (server.perform action state).1).orderly = true
  fetch : ∀ state, (Exchange.fetched (server.fetch state).1).orderly = true

theorem Held.orderly {State : Type u} {server : Server State} {before after : State}
    {dialogue : Dialogue} (held : Held server before dialogue after) (orderly : server.Orderly) :
    ∀ exchange ∈ dialogue, exchange.orderly = true := by
  intro exchange member
  cases exchange with
  | asked action answer =>
      rcases held.exists_performed member with ⟨state, rfl⟩
      exact orderly.perform action state
  | fetched answer =>
      rcases held.exists_fetched member with ⟨state, rfl⟩
      exact orderly.fetch state
  | paused seconds => rfl

/-! ## One call -/

/-- The surroundings of a transaction store nothing. -/
theorem enterAll_of_surrounds {parameters : Parameters} {rowCount : Nat} {dialogue : Dialogue}
    (around : ∀ exchange ∈ dialogue,
      exchange.surrounds (preparation parameters rowCount) = true) (ledger : Ledger) :
    ledger.enterAll dialogue.events = ledger := by
  have silent : ∀ statement ∈ preparation parameters rowCount,
      insertsRows statement = false := by
    intro statement member
    simp only [preparation] at member
    split at member <;> simp at member
    · rcases member with rfl | rfl <;> decide
    · subst member
      decide
  induction dialogue generalizing ledger with
  | nil => rfl
  | cons exchange rest induction =>
      have first := around exchange List.mem_cons_self
      have later := induction fun exchange member => around exchange (List.mem_cons_of_mem _ member)
      cases exchange with
      | asked action answer =>
          have kept : ledger.enter (.acted action answer.isOk) = ledger := by
            cases action with
            | execute statement =>
                have known : statement ∈ preparation parameters rowCount := by
                  simpa [Exchange.surrounds, Action.surrounds] using first
                cases answer <;> simp [Ledger.enter, Except.isOk, Except.toBool, silent _ known]
            | connect | cursor | leaveCursor => rfl
            | commit | rollback | close => cases first
          have shape : ledger.enterAll (Dialogue.events (.asked action answer :: rest)) =
              (ledger.enter (.acted action answer.isOk)).enterAll (Dialogue.events rest) := rfl
          rw [shape, kept]
          exact later ledger
      | fetched rows => exact later ledger
      | paused seconds => exact later ledger

theorem Warns.enterAll {asking : Dialogue} {answer : Except Fault (List (List Datum))}
    (warns : Warns asking answer) (ledger : Ledger) : ledger.enterAll asking.events = ledger := by
  have silent : insertsRows showWarnings = false := by decide
  have kept (completed : Bool) :
      ledger.enter (.acted (.execute showWarnings) completed) = ledger := by
    cases completed <;> simp [Ledger.enter, silent]
  cases warns with
  | refused => exact kept false
  | fetched => exact kept true

/-- Orderly warnings can be told. -/
theorem Warns.told_of_orderly {asking : Dialogue} {answer : Except Fault (List (List Datum))}
    (warns : Warns asking answer) (orderly : ∀ exchange ∈ asking, exchange.orderly = true) :
    isTellable answer = true ∧ ∀ refusal, answer = .error refusal → refusal.isDatabase = true := by
  cases warns with
  | @refused refusal =>
      have reported := orderly _ List.mem_cons_self
      simp only [Exchange.orderly, isReported, bne_self_eq_false, Bool.false_or,
        Bool.and_eq_true] at reported
      exact ⟨reported.2, by rintro _ ⟨⟩; exact reported.1⟩
  | fetched =>
      have fetched := orderly (.fetched answer) (by simp)
      cases answer with
      | ok rows => exact ⟨fetched, by rintro _ ⟨⟩⟩
      | error refusal =>
          simp only [Exchange.orderly, isReported, Bool.and_eq_true] at fetched
          exact ⟨fetched.2, by rintro _ ⟨⟩; exact fetched.1⟩

/-- Recovery stores nothing.  What was pending stays so or is discarded. -/
theorem Recovers.enterAll {fault : Fault} {dialogue : Dialogue} {result : Except Fault Outcome}
    (recovery : Recovers fault dialogue result) (ledger : Ledger) :
    ∃ pending, ledger.enterAll dialogue.events = ⟨pending, ledger.durable⟩ ∧
      (pending = ledger.pending ∨ pending = []) := by
  cases recovery with
  | foreign | unwritten => exact ⟨_, rfl, .inl rfl⟩
  | untold _ _ warns => exact ⟨_, warns.enterAll ledger, .inl rfl⟩
  | stuck _ _ warns =>
      refine ⟨_, ?_, .inl rfl⟩
      rw [Dialogue.events_append, Ledger.enterAll_append, warns.enterAll]
      rfl
  | undone _ _ warns =>
      refine ⟨[], ?_, .inr rfl⟩
      rw [Dialogue.events_append, Ledger.enterAll_append, warns.enterAll]
      rfl

/-- It is discarded if the refusal that is recovered from is reported, and all answers to the
recovery are orderly. -/
theorem Recovers.discards {fault : Fault} {dialogue : Dialogue} {result : Except Fault Outcome}
    (recovery : Recovers fault dialogue result) (reported : isReported fault = true)
    (orderly : ∀ exchange ∈ dialogue, exchange.orderly = true) (ledger : Ledger) :
    ledger.enterAll dialogue.events = ⟨[], ledger.durable⟩ := by
  rw [isReported, Bool.and_eq_true] at reported
  have told (asking : Dialogue) (answer : Except Fault (List (List Datum)))
      (warns : Warns asking answer) (part : asking ⊆ dialogue) :=
    warns.told_of_orderly fun exchange member => orderly exchange (part member)
  rcases recovery.exists_rollback reported.1 reported.2 told with
    ⟨asking, answer, undone, warns, rfl⟩
  rw [Dialogue.events_append, Ledger.enterAll_append, warns.enterAll]
  cases undone with
  | error refusal =>
      have refused := orderly (.asked .rollback (.error refusal)) (by simp)
      cases refused
  | ok count => rfl

/-- Whether an answer says that a batch was taken. -/
def accepts : Except Fault Outcome → Bool
  | .ok outcome => outcome.success
  | .error _ => false

theorem accepts_eq_false {result : Except Fault Outcome}
    (unsuccessful : ∀ detail, result ≠ .ok ⟨true, detail⟩) : accepts result = false := by
  rcases result with fault | ⟨success, detail⟩
  · rfl
  · cases success with
    | false => rfl
    | true => exact absurd rfl (unsuccessful detail)

/-- What a call that sends a statement makes of the ledger, by its result.  Where the answers
are orderly, it says that the batch was taken if, and only if, it was stored, and it leaves
nothing pending. -/
inductive Posts (statement : Text) (orderly : Prop) (before : Ledger)
    (result : Except Fault Outcome) : Ledger → Prop
  | stored (told : orderly → accepts result = true) :
      Posts statement orderly before result
        ⟨[], before.durable ++ (before.pending ++ [statement])⟩
  | failed {pending : List Text} (untold : accepts result = false)
      (kept : pending.Sublist (before.pending ++ [statement]))
      (clean : orderly → before.pending = [] → pending = []) :
      Posts statement orderly before result ⟨pending, before.durable⟩

theorem Posts.weaken {statement : Text} {orderly stricter : Prop} {before after : Ledger}
    {result : Except Fault Outcome} (posts : Posts statement orderly before result after)
    (implied : stricter → orderly) : Posts statement stricter before result after := by
  cases posts with
  | stored told => exact .stored fun strict => told (implied strict)
  | failed untold kept clean => exact .failed untold kept fun strict => clean (implied strict)

/-- A statement that was taken is pending in what follows. -/
theorem enterAll_statement {statement : Text} (inserts : insertsRows statement = true)
    (affected : Int) (dialogue : Dialogue) (ledger : Ledger) :
    ledger.enterAll (Dialogue.events (.asked (.execute statement) (.ok affected) :: dialogue)) =
      (⟨ledger.pending ++ [statement], ledger.durable⟩ : Ledger).enterAll dialogue.events := by
  simp [Dialogue.events, Exchange.event?, Ledger.enterAll, Ledger.enter, Except.isOk,
    Except.toBool, inserts]

theorem Transacts.posts {statement : Text} {dialogue : Dialogue} {result : Except Fault Outcome}
    (transacts : Transacts statement dialogue result) (inserts : insertsRows statement = true)
    (ledger : Ledger) :
    Posts statement (∀ exchange ∈ dialogue, exchange.orderly = true) ledger result
      (ledger.enterAll dialogue.events) := by
  cases transacts with
  | @refused fault dialogue _ recovery =>
      rcases recovery.enterAll ledger with ⟨pending, entered, either⟩
      have same : ledger.enterAll
          (Dialogue.events (.asked (.execute statement) (.error fault) :: dialogue)) =
            ⟨pending, ledger.durable⟩ := entered
      rw [same]
      refine .failed (accepts_eq_false recovery.ok_iff.2) ?_ ?_
      · rcases either with rfl | rfl
        · exact List.sublist_append_left _ _
        · exact List.nil_sublist _
      · rintro - none
        rcases either with rfl | rfl
        · exact none
        · rfl
  | @uncommitted affected fault dialogue _ recovery =>
      have begun : ledger.enterAll (Dialogue.events (.asked (.execute statement) (.ok affected) ::
          .asked .commit (.error fault) :: dialogue)) =
            (⟨ledger.pending ++ [statement], ledger.durable⟩ : Ledger).enterAll
              dialogue.events :=
        enterAll_statement inserts affected (.asked .commit (.error fault) :: dialogue) ledger
      rcases recovery.enterAll ⟨ledger.pending ++ [statement], ledger.durable⟩ with
        ⟨pending, entered, either⟩
      rw [begun, entered]
      refine .failed (accepts_eq_false recovery.ok_iff.2) ?_ ?_
      · rcases either with rfl | rfl
        · exact List.Sublist.refl _
        · exact List.nil_sublist _
      · intro orderly _
        have discarded := recovery.discards (orderly (.asked .commit (.error fault)) (by simp))
          (fun exchange member => orderly exchange (by simp [member]))
          ⟨ledger.pending ++ [statement], ledger.durable⟩
        exact congrArg Ledger.pending (entered.symm.trans discarded)
  | @committed affected count =>
      have same : ledger.enterAll (Dialogue.events [.asked (.execute statement) (.ok affected),
          .asked .commit (.ok count)]) =
            ⟨[], ledger.durable ++ (ledger.pending ++ [statement])⟩ :=
        enterAll_statement inserts affected [.asked .commit (.ok count)] ledger
      rw [same]
      refine .stored fun orderly => ?_
      have short := orderly _ List.mem_cons_self
      simp only [Exchange.orderly, inserts, Bool.not_true, Bool.false_or] at short
      rcases success_cases affected with ⟨-, detail, succeeded⟩ | ⟨long, -⟩
      · rw [succeeded]
        rfl
      · rw [long] at short
        cases short

theorem Course.posts {parameters : Parameters} {rowCount : Nat} {statement : Text}
    {dialogue : Dialogue} {result : Except Fault Outcome}
    (course : Course (preparation parameters rowCount) statement dialogue result)
    (inserts : insertsRows statement = true) (ledger : Ledger) :
    Posts statement (∀ exchange ∈ dialogue, exchange.orderly = true) ledger result
      (ledger.enterAll dialogue.events) := by
  cases course with
  | stopped around =>
      rw [enterAll_of_surrounds around]
      exact .failed rfl (List.sublist_append_left _ _) fun _ none => none
  | @transacted lead transaction left inner around _ _ transacts =>
      have entered : ledger.enterAll
          (Dialogue.events (lead ++ (transaction ++ [.asked .leaveCursor left]))) =
            ledger.enterAll transaction.events := by
        rw [Dialogue.events_append, Dialogue.events_append, Ledger.enterAll_append,
          Ledger.enterAll_append, enterAll_of_surrounds around]
        rfl
      have within (orderly : ∀ exchange ∈ lead ++ (transaction ++ [.asked .leaveCursor left]),
          exchange.orderly = true) : ∀ exchange ∈ transaction, exchange.orderly = true :=
        fun exchange member => orderly exchange (by simp [member])
      have posts := (transacts.posts inserts ledger).weaken within
      rw [entered]
      cases left with
      | ok count => exact posts
      | error fault =>
          generalize ledger.enterAll transaction.events = final at posts ⊢
          cases posts with
          | stored =>
              refine .stored fun orderly => ?_
              have refused := orderly (.asked .leaveCursor (.error fault)) (by simp)
              cases refused
          | failed untold kept clean => exact .failed rfl kept clean

/-! ## Batches one after another -/

theorem insertsRows_statement (rowSet : RowSet) : insertsRows rowSet.statement = true := rfl

section Deliveries

variable {State : Type u} {server : Server State} {opening : Session.Opening State}

theorem insert_posts (honest : OnlyConnects server opening) (parameters : Parameters)
    (rowSet : RowSet) (session : Session State) :
    Posts rowSet.statement server.Orderly session.ledger
      (session.insert server opening parameters rowSet.batch).1
      (session.insert server opening parameters rowSet.batch).2.ledger := by
  rcases Session.insert_calls honest parameters rowSet.batch session with ⟨dialogue, leads, calls⟩
  have posts := (calls.course rowSet.statement_batch).posts (insertsRows_statement rowSet)
    session.ledger
  rw [← leads.ledger] at posts
  exact posts.weaken leads.held.orderly

/-- What a series of deliveries makes of the ledger.  All that was accepted was stored, all
that was stored or is left pending was sent, and with orderly refusals nothing but what
was accepted was stored. -/
structure Stores (orderly : Prop) (before : Ledger) (sent accepted stored : List Text)
    (after : Ledger) : Prop where
  durable : after.durable = before.durable ++ stored
  accepted_sublist : accepted.Sublist stored
  stored_sublist : (stored ++ after.pending).Sublist (before.pending ++ sent)
  settled : orderly → before.pending = [] → stored = accepted ∧ after.pending = []

theorem Stores.nothing (orderly : Prop) (ledger : Ledger) :
    Stores orderly ledger [] [] [] ledger where
  durable := (List.append_nil _).symm
  accepted_sublist := .slnil
  stored_sublist := by simp
  settled := fun _ none => ⟨rfl, none⟩

theorem Stores.append {orderly : Prop} {before between after : Ledger}
    {sent accepted stored laterSent laterAccepted laterStored : List Text}
    (stores : Stores orderly before sent accepted stored between)
    (later : Stores orderly between laterSent laterAccepted laterStored after) :
    Stores orderly before (sent ++ laterSent) (accepted ++ laterAccepted) (stored ++ laterStored)
      after where
  durable := by rw [later.durable, stores.durable, List.append_assoc]
  accepted_sublist := stores.accepted_sublist.append later.accepted_sublist
  stored_sublist := by
    have front : (stored ++ (laterStored ++ after.pending)).Sublist
        (stored ++ (between.pending ++ laterSent)) := later.stored_sublist.append_left stored
    have back : (stored ++ between.pending ++ laterSent).Sublist
        (before.pending ++ sent ++ laterSent) := stores.stored_sublist.append_right laterSent
    simpa only [List.append_assoc] using front.trans (by simpa only [List.append_assoc] using back)
  settled := by
    intro orderly none
    rcases stores.settled orderly none with ⟨same, between⟩
    rcases later.settled orderly between with ⟨laterSame, after⟩
    exact ⟨by rw [same, laterSame], after⟩

theorem Posts.stores {statement : Text} {orderly : Prop} {before after : Ledger}
    {result : Except Fault Outcome} (posts : Posts statement orderly before result after) :
    ∃ stored, Stores orderly before [statement] (if accepts result then [statement] else [])
      stored after := by
  cases posts with
  | stored told =>
      refine ⟨before.pending ++ [statement], rfl, ?_, by simp, fun orderly none => ?_⟩
      · split
        · exact List.sublist_append_right _ _
        · exact List.nil_sublist _
      · simp [told orderly, none]
  | failed untold kept clean =>
      exact ⟨[], (List.append_nil _).symm, by simp [untold], kept,
        fun orderly none => ⟨by simp [untold], clean orderly none⟩⟩

/-- The statements of those row sets that were taken. -/
def accepted (rowSets : List RowSet) (answers : List (Except Fault Outcome)) : List Text :=
  ((rowSets.zip answers).filter fun pair => accepts pair.2).map (·.1.statement)

theorem accepted_cons (rowSet : RowSet) (rest : List RowSet) (answer : Except Fault Outcome)
    (answers : List (Except Fault Outcome)) :
    accepted (rowSet :: rest) (answer :: answers) =
      (if accepts answer then [rowSet.statement] else []) ++ accepted rest answers := by
  cases taken : accepts answer <;> simp [accepted, taken]

theorem destination_stores (honest : OnlyConnects server opening) (parameters : Parameters)
    (rowSets : List RowSet) (session : Session State) :
    let destination := destination server opening parameters
    ∃ stored, Stores server.Orderly session.ledger (rowSets.map (·.statement))
      (accepted rowSets (destination.answers rowSets session)) stored
      (destination.sinkAfter rowSets session).ledger := by
  intro destination
  induction rowSets generalizing session with
  | nil => exact ⟨[], .nothing _ _⟩
  | cons rowSet rest induction =>
      rcases (insert_posts honest parameters rowSet session).stores with ⟨stored, stores⟩
      rcases induction (destination.deliver rowSet.batch session).2 with ⟨laterStored, later⟩
      rw [Destination.answers, accepted_cons]
      exact ⟨stored ++ laterStored, stores.append later⟩

end Deliveries

end Database

end SchemaSeed
