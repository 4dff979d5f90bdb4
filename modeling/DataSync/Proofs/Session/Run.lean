import DataSync.Proofs.Session.Finish

/-!
# Runs

What a run of a synchronizer consists of, however it ends: it is refused and touches no source, or it
exchanges messages until the session ends and then ends its sources.  A session that did not go well
commits nothing.  After one that did, the report of each source tells whether it committed.
-/

namespace DataSync

open DataSync.Action

/-- The status of a session by how it ended. -/
def endingStatus : Except SyncError SessionEnd → SyncStatus
  | .ok ending => ending.status
  | .error e => e.status

theorem status_conclude (ending : Except SyncError SessionEnd) (report : SyncReport) :
    (report.conclude ending).status = endingStatus ending := by
  cases ending with
  | error e => rfl
  | ok ending => cases ending <;> rfl

theorem sources_withSources (sources : Table SourceReport) (report : SyncReport) :
    (report.withSources sources).sources = sources := by
  unfold SyncReport.withSources
  dsimp only
  split
  · split <;> rfl
  · rfl

namespace Registry

variable {registry entered : Registry} {name : String} {handle : SessionHandle}

/-- Only a session of the same name keeps another one out. -/
theorem eq_busy_of_refused {e : SyncError}
    (refused : (register name handle).on registry = (.error e, entered)) :
    e = .sessionBusy name := by
  simp only [register, on_of] at refused
  split at refused <;> cases refused
  rfl

/-- A session that was entered leaves nothing behind when it is removed. -/
theorem release_of_registered (registered : (register name handle).on registry = (.ok (), entered)) :
    entered.release name = registry := by
  simp only [register, on_of] at registered
  split at registered
  · cases registered
  · rename_i absent
    cases registered
    have unknown : registry.handles.get? name = none := by simpa [Table.contains] using absent
    obtain ⟨handles⟩ := registry
    refine congrArg Registry.mk (Table.ext_get? fun other => ?_)
    by_cases here : other = name
    · simp [here, unknown]
    · simp [here]

end Registry

namespace Synchronizer

variable {α β ν χ υ κ : Type} [Backend β] [PropertyNode ν]

theorem finish_reports (config : SyncConfig) (ending : Except SyncError SessionEnd)
    (session : Session α β ν) :
    (finish config ending session).1.sources =
      (SessionItems.endAll (endingStatus ending).isSuccess session.items.reports
        session.items.sources).reports := by
  simp [finish, sources_withSources, status_conclude]

theorem finish_sources (config : SyncConfig) (ending : Except SyncError SessionEnd)
    (session : Session α β ν) :
    (finish config ending session).2 =
      (SessionItems.endAll (endingStatus ending).isSuccess session.items.reports
        session.items.sources).sources := by
  simp [finish, status_conclude]

variable [Agent α] [UserInterface υ] [Surroundings α (Happening β ν)] [Engine χ (Happening β ν)]

/-- The session of a setting ends like this when it gets its password. -/
def Exchanges (horizon : Nat) (setting : Setting α β ν χ υ) (ending : Except SyncError SessionEnd)
    (session : Session α β ν) : Prop :=
  ∃ password person engine,
    (setting.synchronizer.config.resolvePassword).on setting.person = (.ok password, person) ∧
      exchange horizon password setting = some (ending, engine, session)

variable {horizon : Nat} {setting after : Setting α β ν χ υ} {result : Except SyncError SyncReport}
  {ending : Except SyncError SessionEnd} {session : Session α β ν}

theorem Exchanges.unique {other : Except SyncError SessionEnd} {otherSession : Session α β ν}
    (exchanges : Exchanges horizon setting ending session)
    (exchanges' : Exchanges horizon setting other otherSession) :
    ending = other ∧ session = otherSession := by
  obtain ⟨password, person, engine, resolved, exchanged⟩ := exchanges
  obtain ⟨password', person', engine', resolved', exchanged'⟩ := exchanges'
  cases resolved.symm.trans resolved'
  cases exchanged.symm.trans exchanged'
  exact ⟨rfl, rfl⟩

/-- All that a run can do: refuse, fail to get a password, or exchange messages and then end. -/
theorem run_outcomes (ran : run horizon setting = some (result, after)) :
    result = .error (.sessionBusy setting.synchronizer.config.name) ∧ after = setting ∨
    (∃ e person, (setting.synchronizer.config.resolvePassword).on setting.person =
        (.error e, person) ∧ result = .error e ∧
      after = { setting with person, synchronizer := setting.synchronizer.recordRefusal e }) ∨
    ∃ ending session person engine, Exchanges horizon setting ending session ∧
      result = .ok (finish setting.synchronizer.config ending session).1 ∧
      after = { setting with
        synchronizer := setting.synchronizer.recordReport
          (finish setting.synchronizer.config ending session).1
        person
        sources := (finish setting.synchronizer.config ending session).2
        engine
        agent := Agent.shutdown session.agent } := by
  unfold run at ran
  dsimp only at ran
  -- A synchronizer that is busy refuses, and so does a registry with a session of this name.
  split at ran
  · cases ran
    exact .inl ⟨rfl, rfl⟩
  rcases registered : (Registry.register setting.synchronizer.config.name {}).on setting.registry
    with ⟨e | ⟨⟩, registry⟩
  · rw [registered] at ran
    cases ran
    obtain rfl := Registry.eq_busy_of_refused registered
    exact .inl ⟨rfl, rfl⟩
  rw [registered] at ran
  simp only [Registry.release_of_registered registered] at ran
  -- Without a password the session does not begin.
  split at ran
  · rename_i e person refused
    cases ran
    exact .inr (.inl ⟨e, person, refused, rfl, rfl⟩)
  · rename_i password person resolved
    obtain ⟨⟨report, final⟩, conducted, equal⟩ := Option.map_eq_some_iff.1 ran
    cases equal
    obtain ⟨⟨ending, session⟩, exchanged, equal⟩ := Option.map_eq_some_iff.1 conducted
    cases equal
    exact .inr (.inr ⟨ending, _, person, _, ⟨password, person, _, resolved, exchanged⟩, rfl, rfl⟩)

theorem run_cases (ran : run horizon setting = some (result, after)) :
    (∃ e, result = .error e ∧ after.sources = setting.sources) ∨
      ∃ ending session, Exchanges horizon setting ending session ∧
        result = .ok (finish setting.synchronizer.config ending session).1 ∧
        after.sources = (finish setting.synchronizer.config ending session).2 := by
  obtain ⟨rfl, rfl⟩ | ⟨e, _, -, rfl, rfl⟩ | ⟨ending, session, _, _, exchanges, rfl, rfl⟩ :=
    run_outcomes ran
  · exact .inl ⟨_, rfl, rfl⟩
  · exact .inl ⟨e, rfl, rfl⟩
  · exact .inr ⟨ending, session, exchanges, rfl, rfl⟩

/-- A session keeps the features of its sources, commits nothing, and has a report for each source
that it began. -/
theorem Exchanges.steady {feature : Source β ν → κ} (fixed : Source.Fixed feature)
    (exchanges : Exchanges horizon setting ending session) :
    session.items.Steady feature (setting.sources.map feature)
      ((SessionItems.beginAll setting.synchronizer.config .empty []
        setting.sources).1.sources.map Source.name) := by
  obtain ⟨password, person, engine, resolved, exchanged⟩ := exchanges
  have begun : (SessionItems.beginAll setting.synchronizer.config .empty []
      setting.sources).1.Steady feature (setting.sources.map feature)
      ((SessionItems.beginAll setting.synchronizer.config .empty []
        setting.sources).1.sources.map Source.name) :=
    SessionItems.steady_beginAll fixed setting.synchronizer.config setting.sources .empty []
      .empty
  rw [exchange_eq_some_iff] at exchanged
  obtain ⟨e, _, -, proceeded⟩ | ⟨engine, -, proceeded⟩ := proceed_cases horizon password setting
  · cases proceeded.symm.trans exchanged
    exact begun
  · have steady : (opening setting).items.Steady feature _ _ := begun
    have kept := (SessionItems.steady_invariant fixed _ _).converse setting.synchronizer.config.retry
      horizon .none .start engine steady
    rw [← proceeded, exchanged] at kept
    exact kept

end Synchronizer

end DataSync
