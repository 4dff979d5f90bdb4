import DataSync.Proofs.Session.Success
import DataSync.Proofs.Transport.LawfulAgents

/-!
# Accounts of runs

A synchronizer runs one session after the other, each with its own engine, agent and sources.  A run
that is refused because there is such a session already changes nothing.  Any other one is counted
once, leaves the registry as it was, and has closed its sources and its agent when it returns a report.
The counts of a synchronizer are therefore the sums over all its runs.
-/

namespace DataSync

open DataSync.Action

/-- An agent that is closed after it was shut down. -/
class ClosingAgent (α : Type) [Agent α] : Prop where
  status_shutdown : ∀ agent : α, Agent.status (Agent.shutdown agent) = .closed

instance {α : Type} [Agent α] [Accountable α] [LawfulAgent α] : ClosingAgent α where
  status_shutdown agent := by
    rw [LawfulAgent.status_eq, (LawfulAgent.shutdown agent).1]
    rfl

instance {η : Type} : ClosingAgent (BareAgent η) where
  status_shutdown _ := rfl

instance {α β : Type} [Agent α] [ClosingAgent α] [Agent β] [ClosingAgent β] :
    ClosingAgent (α ⊕ β) where
  status_shutdown agent := by
    cases agent with
    | inl agent => exact ClosingAgent.status_shutdown agent
    | inr agent => exact ClosingAgent.status_shutdown agent

theorem SyncConfig.resolvePassword_error {υ : Type} [UserInterface υ] {config : SyncConfig}
    {person after : υ} {e : SyncError}
    (refused : config.resolvePassword.on person = (.error e, after)) :
    ∃ reason, e = .authenticationFailed reason := by
  unfold resolvePassword at refused
  split at refused
  · simp only [on_of] at refused
    split at refused
    · cases refused
    · cases refused
      exact ⟨_, rfl⟩
  · cases refused

namespace SessionItems

variable {β ν : Type} [Backend β] [PropertyNode ν]

/-- However a source ends, it is closed then. -/
theorem isOpen_endSource (success : Bool) (source : Source β ν) (report : SourceReport) :
    (endSource success source report).1.isOpen = false := by
  have ended := Source.isOpen_endSync (asks success source report) source
  rw [endSource_eq, ← asks]
  unfold stateAfter at ended
  rcases answered : (Source.endSync (asks success source report)).on source with ⟨e | committed, after⟩
  · rw [answered] at ended
    exact ended
  · rw [answered] at ended
    exact ended

end SessionItems

namespace Synchronizer

/-! ## Results of runs -/

/-- The run was refused because there is such a session already. -/
def isRefusal : Except SyncError SyncReport → Bool
  | .error (.sessionBusy _) => true
  | _ => false

/-- The run returned the report of a session that went well. -/
def isSuccess : Except SyncError SyncReport → Bool
  | .ok report => report.isSuccess
  | .error _ => false

/-- A result counts as a failure if it is neither a refusal nor a success. -/
def isFailure (result : Except SyncError SyncReport) : Bool :=
  !isRefusal result && !isSuccess result

def messagesOf : Except SyncError SyncReport → Nat
  | .ok report => report.messagesSent
  | .error _ => 0

def retriesOf : Except SyncError SyncReport → Nat
  | .ok report => report.retries
  | .error _ => 0

/-- Counts that grew by what runs gave. -/
structure GrewBy (results : List (Except SyncError SyncReport)) (before after : Statistics) :
    Prop where
  completed : after.completed = before.completed + results.countP isSuccess
  failed : after.failed = before.failed + results.countP isFailure
  messagesSent : after.messagesSent =
    results.foldl (fun sent result => sent + messagesOf result) before.messagesSent
  retries : after.retries =
    results.foldl (fun retries result => retries + retriesOf result) before.retries

theorem GrewBy.append {results later : List (Except SyncError SyncReport)}
    {before between after : Statistics} (first : GrewBy results before between)
    (second : GrewBy later between after) : GrewBy (results ++ later) before after := by
  refine ⟨?_, ?_, ?_, ?_⟩
  · rw [second.completed, first.completed, List.countP_append, Nat.add_assoc]
  · rw [second.failed, first.failed, List.countP_append, Nat.add_assoc]
  · rw [second.messagesSent, first.messagesSent, List.foldl_append]
  · rw [second.retries, first.retries, List.foldl_append]

/-- The run left the synchronizer done, or in error, and was counted as the one or the other. -/
structure CountedOnce (result : Except SyncError SyncReport) (before after : Synchronizer) :
    Prop where
  activity : after.activity = if isSuccess result then .done else .error
  completed :
    after.statistics.completed = before.statistics.completed + (isSuccess result).toNat
  failed : after.statistics.failed = before.statistics.failed + (!isSuccess result).toNat

theorem countedOnce_recordReport (report : SyncReport) (synchronizer : Synchronizer) :
    CountedOnce (.ok report) synchronizer (synchronizer.recordReport report) := by
  cases good : report.isSuccess <;>
    exact ⟨by simp [recordReport, isSuccess, good],
      by simp [recordReport, Statistics.count, isSuccess, good],
      by simp [recordReport, Statistics.count, isSuccess, good]⟩

theorem countedOnce_recordRefusal (e : SyncError) (synchronizer : Synchronizer) :
    CountedOnce (.error e) synchronizer (synchronizer.recordRefusal e) :=
  ⟨rfl, rfl, rfl⟩

theorem grewBy_recordReport (report : SyncReport) (synchronizer : Synchronizer) :
    GrewBy [.ok report] synchronizer.statistics (synchronizer.recordReport report).statistics := by
  cases good : report.isSuccess <;>
    constructor <;>
      simp [recordReport, Statistics.count, isSuccess, isFailure, isRefusal, messagesOf, retriesOf,
        good]

variable {α β ν χ υ : Type} [Agent α] [Backend β] [PropertyNode ν] [UserInterface υ]
  [Surroundings α (Happening β ν)] [Engine χ (Happening β ν)] {horizon : Nat}
  {setting after : Setting α β ν χ υ} {result : Except SyncError SyncReport}

/-! ## One run -/

theorem eq_of_refused (ran : run horizon setting = some (result, after))
    (refused : isRefusal result = true) : after = setting := by
  obtain ⟨-, rfl⟩ | ⟨e, _, resolving, rfl, -⟩ | ⟨_, _, _, _, -, rfl, -⟩ := run_outcomes ran
  · rfl
  · obtain ⟨reason, rfl⟩ := SyncConfig.resolvePassword_error resolving
    cases refused
  · cases refused

theorem counted_of_ran (ran : run horizon setting = some (result, after))
    (taken : isRefusal result = false) :
    after.registry = setting.registry ∧
      CountedOnce result setting.synchronizer after.synchronizer := by
  obtain ⟨rfl, -⟩ | ⟨e, _, -, rfl, rfl⟩ | ⟨_, _, _, _, -, rfl, rfl⟩ := run_outcomes ran
  · cases taken
  · exact ⟨rfl, countedOnce_recordRefusal e _⟩
  · exact ⟨rfl, countedOnce_recordReport _ _⟩

theorem grewBy_of_ran (ran : run horizon setting = some (result, after)) :
    GrewBy [result] setting.synchronizer.statistics after.synchronizer.statistics := by
  obtain ⟨rfl, rfl⟩ | ⟨e, _, resolving, rfl, rfl⟩ | ⟨_, _, _, _, -, rfl, rfl⟩ := run_outcomes ran
  · exact ⟨rfl, rfl, rfl, rfl⟩
  · obtain ⟨reason, rfl⟩ := SyncConfig.resolvePassword_error resolving
    exact ⟨rfl, rfl, rfl, rfl⟩
  · exact grewBy_recordReport _ _

/-- What a run that returned a report has closed and added to the totals. -/
structure CleanedUp (report : SyncReport) (setting after : Setting α β ν χ υ) : Prop where
  sources_closed : ∀ (index : Nat) (source : Source β ν), setting.sources[index]? = some source →
    (setting.synchronizer.config.modeFor source.name).isEnabled = true →
    ∃ ended, after.sources[index]? = some ended ∧ ended.isOpen = false
  agent_closed : Agent.status after.agent = .closed
  messagesSent : after.synchronizer.statistics.messagesSent =
    setting.synchronizer.statistics.messagesSent + report.messagesSent
  retries : after.synchronizer.statistics.retries =
    setting.synchronizer.statistics.retries + report.retries

theorem cleanedUp_of_ran [NamedBackend β] [ClosingAgent α] {report : SyncReport}
    (ran : run horizon setting = some (.ok report, after))
    (distinct : (setting.sources.map Source.name).Nodup) : CleanedUp report setting after := by
  have grew := grewBy_of_ran ran
  refine ⟨fun index source found enabled => ?_, ?_, grew.messagesSent, grew.retries⟩
  · obtain ⟨e, same, -⟩ | ⟨ending, session, exchanges, -, ended⟩ := run_cases ran
    · cases same
    obtain ⟨atEnd, report, -, -, -, mode, foundEnded, -⟩ :=
      exchanges.source_ends distinct found (endingStatus ending).isSuccess
    rw [← finish_sources setting.synchronizer.config, ← ended, SessionItems.endReported, mode,
      if_pos enabled] at foundEnded
    exact ⟨_, foundEnded, SessionItems.isOpen_endSource _ _ _⟩
  · obtain ⟨same, -⟩ | ⟨_, _, -, same, -⟩ | ⟨_, _, _, _, -, -, rfl⟩ := run_outcomes ran
    · cases same
    · cases same
    · exact ClosingAgent.status_shutdown _

/-! ## All runs -/

/-- Runs of a synchronizer one after the other, with what they gave and the synchronizer after them.
Engine, agent, sources, person and registry may be others each time. -/
inductive Served (start : Synchronizer) :
    List (Except SyncError SyncReport) → Synchronizer → Prop where
  | start : Served start [] start
  | run {α β ν χ υ : Type} [Agent α] [Backend β] [PropertyNode ν] [UserInterface υ]
      [Surroundings α (Happening β ν)] [Engine χ (Happening β ν)] {horizon : Nat}
      {setting after : Setting α β ν χ υ} {result : Except SyncError SyncReport}
      {results : List (Except SyncError SyncReport)} :
      Served start results setting.synchronizer → run horizon setting = some (result, after) →
      Served start (results ++ [result]) after.synchronizer

theorem Served.grewBy {start current : Synchronizer} {results : List (Except SyncError SyncReport)}
    (served : Served start results current) :
    GrewBy results start.statistics current.statistics := by
  induction served with
  | start => exact ⟨rfl, rfl, rfl, rfl⟩
  | run _ ran inductionHypothesis => exact inductionHypothesis.append (grewBy_of_ran ran)

/-- After any runs of a synchronizer, one more over sources of different names:
if it is refused because there is such a session already, it changes nothing; otherwise it leaves the
registry as it was and is counted once, as completed if it returned the report of a success and as
failed if not; if it returned a report, all sources that take part and the agent are closed and the
messages and repetitions of the report are added to the totals.  So the counts are the sums over all
runs. -/
theorem runs_clean_up_and_count [NamedBackend β] [ClosingAgent α] {start : Synchronizer}
    {earlier : List (Except SyncError SyncReport)}
    (served : Served start earlier setting.synchronizer)
    (ran : run horizon setting = some (result, after))
    (distinct : (setting.sources.map Source.name).Nodup) :
    (isRefusal result = true → after = setting) ∧
    (isRefusal result = false → after.registry = setting.registry ∧
      CountedOnce result setting.synchronizer after.synchronizer) ∧
    (∀ report, result = .ok report → CleanedUp report setting after) ∧
    GrewBy (earlier ++ [result]) start.statistics after.synchronizer.statistics := by
  refine ⟨eq_of_refused ran, counted_of_ran ran, ?_, (served.run ran).grewBy⟩
  rintro report rfl
  exact cleanedUp_of_ran ran distinct

/-- The setting of one source whose backend cannot be closed, for a synchronizer that served before,
while another session runs. -/
def secondSetting (synchronizer : Synchronizer) :
    Setting (BareAgent StageHappening) ScriptedBackend MemoryNode (PlannedEngine StageHappening)
      Observer :=
  { oneSource [(.closing, .io (.ofKind .brokenPipe))] {} with
    synchronizer, registry := ⟨.ofList [("other", {})]⟩ }

theorem two_failing_runs_clean_up_and_count :
    ∃ first between second after,
      run 1 (oneSource [] { beginError := some (.protocol "refused") }) =
        some (.ok first, between) ∧
      run 1 (secondSetting between.synchronizer) = some (.ok second, after) ∧
      ((secondSetting between.synchronizer).sources.map Source.name).Nodup ∧
      after.registry = ⟨.ofList [("other", {})]⟩ ∧ after.synchronizer.activity = .error ∧
      CleanedUp second (secondSetting between.synchronizer) after ∧
      after.synchronizer.statistics.completed = 0 ∧ after.synchronizer.statistics.failed = 2 := by
  obtain ⟨first, between, ran, bad⟩ : ∃ first between,
      run 1 (oneSource [] { beginError := some (.protocol "refused") }) =
        some (.ok first, between) ∧ first.isSuccess = false := ⟨_, _, rfl, rfl⟩
  obtain ⟨second, after, ranAgain, badAgain⟩ : ∃ second after,
      run 1 (secondSetting between.synchronizer) = some (.ok second, after) ∧
        second.isSuccess = false := by
    cases ran
    exact ⟨_, _, rfl, rfl⟩
  have distinct : ((secondSetting between.synchronizer).sources.map Source.name).Nodup := by
    simp [secondSetting, oneSource]
  have servedOnce := Served.start.run ran
  have served : Served { config := { name := "work" } } [.ok first]
      (secondSetting between.synchronizer).synchronizer := servedOnce
  obtain ⟨-, counted, cleanedUp, grew⟩ := runs_clean_up_and_count served ranAgain distinct
  obtain ⟨registry, lastCounted⟩ := counted rfl
  refine ⟨first, between, second, after, ran, ranAgain, distinct, registry, ?_, cleanedUp _ rfl,
    ?_, ?_⟩
  · simp [lastCounted.activity, isSuccess, badAgain]
  · rw [grew.completed]
    simp [isSuccess, bad, badAgain]
  · rw [grew.failed]
    simp [isFailure, isRefusal, isSuccess, bad, badAgain]

end Synchronizer

end DataSync
