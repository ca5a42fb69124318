import SchemaSeed.Command
import SchemaSeed.Proofs.Database.Lifecycle
import SchemaSeed.Proofs.Fill.Shown
import SchemaSeed.Proofs.Settings.RowCount

/-! How a command that fills ends.  It exits with zero exactly if its run was reached,
returned, and filled every table; and however it ends, every connection it opened is closed
by then. -/

namespace SchemaSeed

universe u v

namespace Database

/-- Closing completes, or is refused with an error of the client's own family. -/
def Server.ClosesQuietly {State : Type u} (server : Server State) : Prop :=
  ∀ state fault, (server.perform .close state).1 = .error fault →
    ∃ kind, fault.databaseKind? = some kind ∧ kind.isError = true

section Sessions

variable {State : Type u} {server : Server State} {opening : Session.Opening State}

theorem Session.close_of_quiet (quiet : server.ClosesQuietly) (session : Session State) :
    (session.close server).1 = .ok () := by
  simp only [close]
  split
  · rcases acted : session.act server .close with ⟨answer, after⟩
    cases answer with
    | ok count => rfl
    | error fault =>
        have refused : (server.perform .close session.server).1 = .error fault := by
          rw [act] at acted
          exact congrArg Prod.fst acted
        rcases quiet _ _ refused with ⟨kind, known, family⟩
        simp only [known, family, if_true]
  · rfl

theorem sinkAfter_alternates (opens : Opens server opening) (parameters : Parameters)
    (rowSets : List RowSet) (session : Session State) :
    let after := (destination server opening parameters).sinkAfter rowSets session
    ∃ dialogue, Leads server session dialogue after ∧
      Alternates session.connected dialogue.events after.connected := by
  induction rowSets generalizing session with
  | nil => exact ⟨[], .silent session, .done⟩
  | cons rowSet rest induction =>
      rcases session.insert_alternates opens parameters rowSet.batch with
        ⟨first, leads, alternates⟩
      rcases induction ((destination server opening parameters).deliver rowSet.batch session).2 with
        ⟨second, later, further⟩
      have delivered : Leads server session first
          ((destination server opening parameters).deliver rowSet.batch session).2 :=
        ⟨leads.held, leads.written⟩
      refine ⟨first ++ second, delivered.append later, ?_⟩
      rw [Dialogue.events_append]
      exact alternates.append further

end Sessions

end Database

namespace Command

open Database

variable {State : Type u} (world : World State)

/-! ## Runs -/

def dryFiller (settings : Settings) (policy : Policy) : Filler DryRun.Statements Twister :=
  ⟨⟨policy, world.instant, Twister.source⟩, DryRun.destination, settings.strict⟩

def databaseFiller (settings : Settings) (policy : Policy) : Filler (Session State) Twister :=
  ⟨⟨policy, world.instant, Twister.source⟩,
    destination world.server (Session.connect world.server settings.parameters)
      settings.parameters,
    settings.strict⟩

/-- What the run of a command answers, into the database or without one. -/
def ran (settings : Settings) (path : Text) (policy : Policy) :
    Except Fault (List TableResult) :=
  if settings.dryRun then (runFiller world (dryFiller world settings policy) settings path []).1
  else
    (runFiller world (databaseFiller world settings policy) settings path
      (.start world.database)).1

/-- A command comes as far as its run: its settings can be read and say how to log, a schema
file is configured, and the policy is valid. -/
structure Reaches (schema : Option Text) (overrides : Overrides) (settings : Settings)
    (path : Text) (policy : Policy) : Prop where
  read : ∃ found, Command.settings world = .ok found ∧ settings = overrides.apply schema found
  logs : ∃ logging, Log.Session.initial.configure (.text settings.logLevel)
    (if settings.jsonLogs then Log.Format.json else Log.Format.console) true = .ok logging
  configured : settings.schemaFile = some path
  named : path ≠ []
  valid : settings.policy = .valid policy

variable {world}

theorem settings_short {found : Settings} (read : settings world = .ok found) :
    Decimal.isTooLong found.rowCount = false := by
  rw [settings] at read
  cases text : settingsText world with
  | error fault =>
      rw [text] at read
      cases read
  | ok file =>
      simp only [text, Fault.ofComplaints] at read
      split at read
      · rename_i valid
        cases read
        exact Settings.rowCount_short rfl valid
      · cases read

theorem Reaches.short {schema : Option Text} {overrides : Overrides} {settings : Settings}
    {path : Text} {policy : Policy} (reaches : Reaches world schema overrides settings path policy)
    (short : overrides.Short) : Decimal.isTooLong policy.rowCount = false := by
  rcases reaches.read with ⟨found, read, rfl⟩
  rw [Policy.rowCount_of_fields reaches.valid]
  show Decimal.isTooLong (overrides.rowCount.getD found.rowCount) = false
  cases given : overrides.rowCount with
  | none => exact settings_short read
  | some count => exact short count given

section Runs

variable (world) {Sink : Type v} (filler : Filler Sink Twister) (settings : Settings)
  (path : Text) (sink : Sink)

variable {filler settings path sink} in
theorem showable_of_runFiller {results : List TableResult}
    (ran : (runFiller world filler settings path sink).1 = .ok results)
    (short : Decimal.isTooLong filler.policy.rowCount = false)
    (succeeded : ∀ result ∈ results, result.success = true) :
    ∃ text, Report.results results = .ok text := by
  simp only [runFiller] at ran
  split at ran
  · cases ran
  · exact Report.results_of_showable
      (filler.showable_of_run (Prod.ext ran rfl) short succeeded)

theorem runFiller_sink : ∃ rowSets, (runFiller world filler settings path sink).2.sink =
    filler.destination.sinkAfter rowSets sink := by
  simp only [runFiller]
  split
  · exact ⟨[], rfl⟩
  · exact ⟨_, (filler.run_hands_over _ _).2⟩

end Runs

/-! ## Effects -/

theorem startWithSettings_eq : (startWithSettings world).status = 0 ∧
    (startWithSettings world).session = .start world.database := by
  have complained (complaints : List Text) (effect : Effect State) :
      (complaints.foldl (fun effect complaint => effect.complainLine complaint) effect).status =
          effect.status ∧
        (complaints.foldl (fun effect complaint => effect.complainLine complaint) effect).session =
          effect.session := by
    induction complaints generalizing effect with
    | nil => exact ⟨rfl, rfl⟩
    | cons complaint rest induction => exact induction (effect.complainLine complaint)
  rw [startWithSettings]
  split
  · exact ⟨rfl, rfl⟩
  · exact complained _ _

/-- A fault that is reported and one that escapes in its place end with the same status. -/
@[simp] theorem status_report (fault : Fault) (effect : Effect State) :
    (effect.report fault).status = 1 := by
  rw [Effect.report]
  split <;> rfl

@[simp] theorem session_report (fault : Fault) (effect : Effect State) :
    (effect.report fault).session = effect.session := by
  rw [Effect.report]
  split <;> rfl

theorem finish_session (results : List TableResult) (diagnostics : Diagnostics)
    (effect : Effect State) : (finish results diagnostics effect).session = effect.session := by
  simp only [finish]
  split <;> rfl

theorem finish_status {results : List TableResult}
    (shown : (∀ result ∈ results, result.success = true) →
      ∃ text, Report.results results = .ok text)
    (diagnostics : Diagnostics) (effect : Effect State) :
    (finish results diagnostics effect).status = 0 ↔
      ∀ result ∈ results, result.success = true := by
  simp only [finish]
  cases report : Report.results results with
  | error fault =>
      refine ⟨by rintro ⟨⟩, fun succeeded => ?_⟩
      rcases shown succeeded with ⟨text, shown⟩
      rw [report] at shown
      cases shown
  | ok text =>
      cases all : results.all (·.success) with
      | true => simpa [Effect.exit] using all
      | false => simpa [Effect.exit] using all

section Endings

variable {settings : Settings} (logging : Log.Session) {path : Text} {policy : Policy}
  (short : Decimal.isTooLong policy.rowCount = false)

theorem fillDry_session (effect : Effect State) :
    (fillDry world settings logging path policy effect).session = effect.session := by
  simp only [fillDry]
  split
  · exact finish_session _ _ _
  · split
    · exact session_report _ _
    · rfl

include short in
theorem fillDry_status (effect : Effect State) :
    (fillDry world settings logging path policy effect).status = 0 ↔
      ∃ results,
        (runFiller world (dryFiller world settings policy) settings path []).1 = .ok results ∧
          ∀ result ∈ results, result.success = true := by
  simp only [fillDry]
  rw [← dryFiller]
  cases answered : (runFiller world (dryFiller world settings policy) settings path []).1 with
  | error fault =>
      dsimp only
      split <;> simp [Effect.escape]
  | ok results =>
      dsimp only
      rw [finish_status (showable_of_runFiller world answered short)]
      simp

theorem fillDatabase_session (effect : Effect State) :
    (fillDatabase world settings logging path policy effect).session =
      ((runFiller world (databaseFiller world settings policy) settings path
        effect.session).2.sink.close world.server).2 := by
  simp only [fillDatabase]
  rw [← databaseFiller, show (effect.printLine _).session = effect.session from rfl]
  rcases runFiller world (databaseFiller world settings policy) settings path effect.session with
    ⟨answered, state⟩
  rcases state.sink.close world.server with ⟨closed, session⟩
  cases closed with
  | error fault => rfl
  | ok done =>
      cases answered with
      | ok results => exact finish_session _ _ _
      | error fault =>
          dsimp only
          split <;> rfl

/-- The run uses connections one after another, and the last one is closed behind it. -/
theorem fillDatabase_alternates {effect : Effect State}
    (fresh : effect.session = .start world.database) :
    Alternates false
      (fillDatabase world settings logging path policy effect).session.transcript false := by
  rw [fillDatabase_session, fresh]
  rcases runFiller_sink world (databaseFiller world settings policy) settings path
    (.start world.database) with ⟨rowSets, sink⟩
  rw [sink]
  rcases sinkAfter_alternates (opens_connect world.server settings.parameters)
    settings.parameters rowSets (.start world.database) with ⟨sent, leads, alternates⟩
  rcases ((databaseFiller world settings policy).destination.sinkAfter rowSets
    (.start world.database)).close_alternates world.server with
    ⟨closing, later, released⟩
  rw [Session.connected_close] at released
  rw [(leads.append later).written, Dialogue.events_append]
  exact alternates.append released

include short in
theorem fillDatabase_status (quiet : world.server.ClosesQuietly) {effect : Effect State}
    (fresh : effect.session = .start world.database) :
    (fillDatabase world settings logging path policy effect).status = 0 ↔
      ∃ results,
        (runFiller world (databaseFiller world settings policy) settings path
          (.start world.database)).1 = .ok results ∧
          ∀ result ∈ results, result.success = true := by
  simp only [fillDatabase]
  rw [← databaseFiller, show (effect.printLine _).session = effect.session from rfl, fresh]
  rcases answer : runFiller world (databaseFiller world settings policy) settings path
    (.start world.database) with ⟨answered, state⟩
  have completed := state.sink.close_of_quiet quiet
  rcases closed : state.sink.close world.server with ⟨closing, session⟩
  rw [closed] at completed
  cases completed
  cases answered with
  | ok results =>
      dsimp only
      rw [finish_status (showable_of_runFiller world (congrArg Prod.fst answer) short)]
      simp
  | error fault =>
      dsimp only
      split <;> simp [Effect.escape, writeRecords, Effect.log, Effect.complain]

end Endings

/-! ## The command -/

theorem invoked_fill {words : List Text} {schema : Option Text} {overrides : Overrides}
    (invoked : invocation? words = some (.fill schema overrides)) :
    run world words = fill world schema overrides := by
  rw [run, invoked]

theorem fill_alternates (schema : Option Text) (overrides : Overrides) :
    Alternates false (fill world schema overrides).session.transcript false := by
  have fresh : (startWithSettings world).session = .start world.database :=
    startWithSettings_eq.2
  have silent : Alternates false (startWithSettings world).session.transcript false := by
    rw [fresh]
    exact .done
  simp only [fill]
  split
  · exact silent
  · split
    · exact silent
    · split
      · exact silent
      · exact silent
      · split
        · exact silent
        · split
          · rw [fillDry_session]
            exact silent
          · exact fillDatabase_alternates _ fresh

section Status

variable {schema : Option Text} {overrides : Overrides} {settings : Settings} {path : Text}
  {policy : Policy}

theorem Reaches.fill_eq (reaches : Reaches world schema overrides settings path policy) :
    ∃ logging, fill world schema overrides =
      if settings.dryRun then fillDry world settings logging path policy (startWithSettings world)
      else fillDatabase world settings logging path policy (startWithSettings world) := by
  rcases reaches.read with ⟨found, read, rfl⟩
  rcases reaches.logs with ⟨logging, logs⟩
  refine ⟨logging, ?_⟩
  simp only [fill, read, logs, reaches.configured, reaches.valid]
  split
  · rename_i none
    cases none
  · rename_i empty
    cases empty
    exact absurd rfl reaches.named
  · rename_i same
    cases same
    rfl

/-- Whatever keeps the command from its run gives it another exit status. -/
theorem exists_reaches (done : (fill world schema overrides).status = 0) :
    ∃ settings path policy, Reaches world schema overrides settings path policy := by
  simp only [fill] at done
  split at done
  · cases done
  · rename_i found read
    split at done
    · cases done
    · rename_i logging logs
      split at done
      · cases done
      · cases done
      · rename_i path named configured
        split at done
        · cases done
        · rename_i policy valid
          exact ⟨overrides.apply schema found, path, policy, ⟨found, read, rfl⟩, ⟨logging, logs⟩,
            configured, named, valid⟩

theorem Reaches.status (reaches : Reaches world schema overrides settings path policy)
    (quiet : world.server.ClosesQuietly) (short : overrides.Short) :
    (fill world schema overrides).status = 0 ↔ ∃ results,
      ran world settings path policy = .ok results ∧
        ∀ result ∈ results, result.success = true := by
  rcases reaches.fill_eq with ⟨logging, filled⟩
  rw [filled, ran]
  cases settings.dryRun with
  | true => exact fillDry_status logging (reaches.short short) _
  | false => exact fillDatabase_status logging (reaches.short short) quiet startWithSettings_eq.2

end Status

/-- The command that fills exits with zero exactly if it came as far as its run, the run
returned, and all its results are successes.  Whatever became of it, connections were
opened one after another, and each was closed once. -/
theorem fill_exits_with_zero_iff_all_tables_filled {State : Type u} (world : World State)
    (quiet : world.server.ClosesQuietly) {words : List Text} {schema : Option Text}
    {overrides : Overrides} (invoked : invocation? words = some (.fill schema overrides)) :
    let effect := run world words
    (effect.status = 0 ↔ ∃ settings path policy results,
      Reaches world schema overrides settings path policy ∧
        ran world settings path policy = .ok results ∧
          ∀ result ∈ results, result.success = true) ∧
    Lifecycle effect.session.transcript false ∧
    openings effect.session.transcript = closings effect.session.transcript := by
  intro effect
  have alternates : Alternates false effect.session.transcript false := by
    rw [show effect = fill world schema overrides from invoked_fill invoked]
    exact fill_alternates schema overrides
  refine ⟨?_, alternates.lifecycle, by simpa using alternates.count⟩
  have short := invocation?_short invoked
  rw [show effect = fill world schema overrides from invoked_fill invoked]
  constructor
  · intro done
    rcases exists_reaches done with ⟨settings, path, policy, reaches⟩
    rcases (reaches.status quiet short).mp done with ⟨results, answered, succeeded⟩
    exact ⟨settings, path, policy, results, reaches, answered, succeeded⟩
  · rintro ⟨settings, path, policy, results, reaches, answered, succeeded⟩
    exact (reaches.status quiet short).mpr ⟨results, answered, succeeded⟩

/-- A server that takes everything and then refuses to be left. -/
def refusingClose : Server Unit where
  perform action state :=
    if action = .close then
      (.error (.failed ⟨.database .error, [.text "Already closed"], none⟩), state)
    else (.ok 1, state)
  fetch state := (.ok [], state)

theorem refusingClose_closesQuietly : refusingClose.ClosesQuietly := by
  intro state fault refused
  simp only [refusingClose, if_true] at refused
  have same := Except.error.inj refused
  subst same
  exact ⟨.error, rfl, rfl⟩

/-- A place with a schema, that server, and no settings. -/
def furnished (document : Text) : World Unit where
  file path :=
    if path = settingsFile then none
    else some (document.map fun character => character.toNat.toUInt8)
  environment := []
  clock := .still
  instant := ⟨2024, 2, 29, 13, 45, 7⟩
  logTime := []
  unforeseen := Twister.ofSeed 0
  server := refusingClose
  database := ()

theorem fill_exits_with_zero_over_refused_closing :
    let document : Text := "CREATE TABLE `a` (`n` TINYINT, `id` INT PRIMARY KEY)"
    let effect := run (furnished document) ["fill", "--fixed", "s.sql"]
    effect.status = 0 ∧ openings effect.session.transcript = 1 ∧
      openings effect.session.transcript = closings effect.session.transcript := by
  intro document effect
  have quiet : (furnished document).server.ClosesQuietly := refusingClose_closesQuietly
  have invoked : invocation? ["fill", "--fixed", "s.sql"] =
      some (.fill (some "s.sql") { randomized := some false }) := by
    decide
  have read : settings (furnished document) = .ok ⟨none, 1, true, 33, 126, none, false, false,
      false, "localhost", 3306, "root", [], "test", "utf8mb4", "INFO", false⟩ := by
    rfl
  have opened : openings effect.session.transcript = 1 := by
    decide +kernel
  have ended := fill_exits_with_zero_iff_all_tables_filled (furnished document) quiet invoked
  generalize left : run (furnished document) _ = final at ended
  rw [show effect = final from left] at opened ⊢
  refine ⟨ended.1.mpr ?_, opened, ended.2.2⟩
  let settings : Settings := ⟨some "s.sql", 1, false, 33, 126, none, false, false, false,
    "localhost", 3306, "root", [], "test", "utf8mb4", "INFO", false⟩
  let policy : Policy := { Policy.default with randomized := false }
  have told : (ran (furnished document) settings "s.sql" policy).toOption.map
      (·.map (·.success)) = some [true] := by
    decide +kernel
  cases answered : ran (furnished document) settings "s.sql" policy with
  | error fault =>
      rw [answered] at told
      cases told
  | ok results =>
      rw [answered] at told
      have succeeded : ∀ result ∈ results, result.success = true := by
        have all : results.map (·.success) = [true] := Option.some.inj told
        intro result member
        have found : result.success ∈ results.map (·.success) := List.mem_map_of_mem member
        rw [all] at found
        exact List.mem_singleton.mp found
      exact ⟨settings, "s.sql", policy, results,
        ⟨⟨_, read, rfl⟩, ⟨_, rfl⟩, rfl, by decide, rfl⟩, answered, succeeded⟩

end Command

end SchemaSeed
