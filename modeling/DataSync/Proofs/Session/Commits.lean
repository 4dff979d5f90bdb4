import DataSync.Proofs.Session.Run
import DataSync.Rehearsal.BareAgent
import DataSync.Rehearsal.PlannedEngine
import DataSync.Rehearsal.Stage

/-!
# Commits of runs

Which runs change what the nodes of their sources hold.  A run that fails, or whose session does not go
well, changes nothing.  In any other run each source decides for itself, and its report tells what it
decided, with one exception: a commit that is lost between the node and the backend is reported as not
made although the node holds the new revisions.
-/

namespace DataSync

open DataSync.Action

namespace Synchronizer

variable {α β ν χ υ : Type} [Agent α] [Backend β] [PropertyNode ν] [UserInterface υ]
  [Surroundings α (Happening β ν)] [Engine χ (Happening β ν)]

/-- Neither a run that fails nor one whose session does not go well commits anything. -/
theorem commits_nothing_of_unsuccessful {horizon : Nat} {setting after : Setting α β ν χ υ}
    {result : Except SyncError SyncReport} (ran : run horizon setting = some (result, after))
    (unsuccessful : (∃ e, result = .error e) ∨
      ∃ ending session, Exchanges horizon setting ending session ∧ endingStatus ending ≠ .ok) :
    after.sources.map Source.persisted = setting.sources.map Source.persisted ∧
      ∀ report, result = .ok report → ∀ name sourceReport,
        report.sources.get? name = some sourceReport → sourceReport.committed = false := by
  obtain ⟨e, rfl, untouched⟩ | ⟨ending, session, exchanges, rfl, ended⟩ := run_cases ran
  · exact ⟨by rw [untouched], fun report same => by cases same⟩
  · have steady := exchanges.steady Source.Fixed.persisted
    have failed : (endingStatus ending).isSuccess = false := by
      obtain ⟨e, same⟩ | ⟨other, otherSession, otherExchanges, status⟩ := unsuccessful
      · cases same
      · obtain ⟨rfl, rfl⟩ := exchanges.unique otherExchanges
        simpa [SyncStatus.isSuccess] using status
    have kept := SessionItems.endAll_of_failure session.items.sources session.items.reports
      steady.uncommitted
    constructor
    · rw [ended, finish_sources, failed, kept.1, steady.features_eq]
    · rintro report ⟨⟩ name sourceReport found
      rw [finish_reports, failed] at found
      exact kept.2 name sourceReport found

/-- One source with a note that is not yet committed, its backend scripted to fail. -/
def oneSource (failures : List (BackendCall × SourceError)) (engine : PlannedEngine StageHappening) :
    Setting (BareAgent StageHappening) ScriptedBackend MemoryNode (PlannedEngine StageHappening)
      Observer where
  synchronizer := { config := { name := "work" } }
  registry := {}
  person := {}
  sources := [{
    backend := { memory := MemoryBackend.withItems [("1", [97])] { name := "notes" }, failures }
    tracking := some { node := .holding "notes" (.ofList [("2", "7")]) } }]
  engine
  agent := {}

theorem commits_nothing_of_refusing_engine :
    ∃ report after,
      run 1 (oneSource [] { beginError := some (.protocol "refused") }) = some (.ok report, after) ∧
      after.sources.map Source.persisted =
        [some (.ok (.ofList [("2", "7")]))] := by
  have exchanges : ∃ session, Exchanges 1 (oneSource [] { beginError := some (.protocol "refused") })
      (.error (.protocol "refused")) session := ⟨_, _, _, _, rfl, rfl⟩
  obtain ⟨session, exchanges⟩ := exchanges
  refine ⟨_, _, rfl, ?_⟩
  exact (commits_nothing_of_unsuccessful rfl (.inr ⟨_, session, exchanges, by decide⟩)).1

/-! ## Reports of commits -/

/-- At the end of a session every source stands where it stood, with its name and its content, and has
a report that says that nothing was committed. -/
theorem Exchanges.source_at_end [NamedBackend β] {horizon : Nat} {setting : Setting α β ν χ υ}
    {ending : Except SyncError SessionEnd} {session : Session α β ν}
    (exchanges : Exchanges horizon setting ending session) {index : Nat} {source : Source β ν}
    (found : setting.sources[index]? = some source) :
    ∃ atEnd report, session.items.sources[index]? = some atEnd ∧ atEnd.name = source.name ∧
      atEnd.persisted = source.persisted ∧
      session.items.reports.get? source.name = some report ∧ report.committed = false := by
  -- Name and content stay together at every position of the list.
  have steady := exchanges.steady (Source.Fixed.name.pair Source.Fixed.persisted)
  have features := congrArg (·[index]?) steady.features_eq
  simp only [List.getElem?_map, found, Option.map_some, Option.map_eq_some_iff,
    Prod.mk.injEq] at features
  obtain ⟨atEnd, foundAtEnd, sameName, sameContent⟩ := features
  -- The report was entered under the name when the source began, and the name is still the same.
  have begun := SessionItems.steady_beginAll Source.Fixed.name setting.synchronizer.config
    setting.sources .empty [] .empty
  have reported := steady.reported source.name (by
    rw [begun.features_eq]
    exact List.mem_map_of_mem (List.mem_of_getElem? found))
  obtain ⟨report, foundReport⟩ := Option.isSome_iff_exists.1 reported
  exact ⟨atEnd, report, foundAtEnd, sameName, sameContent, foundReport,
    steady.uncommitted _ _ foundReport⟩

/-- What a run leaves of a source, and reports about it, comes of ending its session. -/
theorem ended_of_run [NamedBackend β] {horizon : Nat} {setting after : Setting α β ν χ υ}
    {report : SyncReport} (ran : run horizon setting = some (.ok report, after))
    (distinct : (setting.sources.map Source.name).Nodup) {index : Nat} {source : Source β ν}
    (found : setting.sources[index]? = some source) :
    ∃ ending session atEnd reportAtEnd,
      Exchanges horizon setting ending session ∧
      session.items.sources[index]? = some atEnd ∧ atEnd.persisted = source.persisted ∧
      session.items.reports.get? source.name = some reportAtEnd ∧ reportAtEnd.committed = false ∧
      after.sources[index]? = some (SessionItems.endReported (endingStatus ending).isSuccess atEnd
        reportAtEnd).1 ∧
      report.sources.get? source.name = some (SessionItems.endReported
        (endingStatus ending).isSuccess atEnd reportAtEnd).2 := by
  obtain ⟨e, same, -⟩ | ⟨ending, session, exchanges, same, ended⟩ := run_cases ran
  · cases same
  cases same
  obtain ⟨atEnd, reportAtEnd, foundAtEnd, sameName, sameContent, reported, uncommitted⟩ :=
    exchanges.source_at_end found
  -- The sources have different names at the end, too, so that no report is touched twice.
  have distinctAtEnd : (session.items.sources.map Source.name).Nodup := by
    rw [(exchanges.steady Source.Fixed.name).features_eq]
    exact distinct
  have foundReportAtEnd := reported
  rw [← sameName] at reported
  obtain ⟨foundEnded, foundReport⟩ := SessionItems.endAll_getElem?
    (endingStatus ending).isSuccess distinctAtEnd foundAtEnd reported
  rw [← finish_sources setting.synchronizer.config, ← ended] at foundEnded
  rw [← finish_reports setting.synchronizer.config, sameName] at foundReport
  exact ⟨ending, session, atEnd, reportAtEnd, exchanges, foundAtEnd, sameContent, foundReportAtEnd,
    uncommitted, foundEnded, foundReport⟩

/-- A source that is reported to have committed holds its revisions.  Any other one holds what it
held before the run, unless it lost its commit: then it holds the new revisions all the same. -/
theorem persisted_of_report [NamedBackend β] [LawfulNode ν] {horizon : Nat}
    {setting after : Setting α β ν χ υ} {report : SyncReport}
    (ran : run horizon setting = some (.ok report, after))
    (distinct : (setting.sources.map Source.name).Nodup) {index : Nat} {source : Source β ν}
    (found : setting.sources[index]? = some source) :
    ∃ ending session atEnd reportAtEnd ended sourceReport,
      Exchanges horizon setting ending session ∧
      session.items.sources[index]? = some atEnd ∧
      session.items.reports.get? source.name = some reportAtEnd ∧
      after.sources[index]? = some ended ∧
      report.sources.get? source.name = some sourceReport ∧
      (sourceReport.committed = true → ∃ tracking, atEnd.tracking = some tracking ∧
        ended.persisted = some (.ok (tracking.commitMap atEnd.current))) ∧
      (sourceReport.committed = false ∨ sourceReport.status ≠ .ok →
        (∀ tracking, ¬ SessionItems.LosesCommit (endingStatus ending).isSuccess atEnd reportAtEnd
          tracking) → ended.persisted = source.persisted) ∧
      ∀ tracking, SessionItems.LosesCommit (endingStatus ending).isSuccess atEnd reportAtEnd
          tracking → sourceReport.committed = false ∧
        ended.persisted = some (.ok (tracking.commitMap atEnd.current)) := by
  obtain ⟨ending, session, atEnd, reportAtEnd, exchanges, foundAtEnd, sameContent, reported,
    uncommitted, foundEnded, foundReport⟩ := ended_of_run ran distinct found
  refine ⟨ending, session, atEnd, reportAtEnd, _, _, exchanges, foundAtEnd, reported,
    foundEnded, foundReport, fun committed => ?_, fun unsuccessful kept => ?_,
    fun tracking => SessionItems.endReported_of_lost _ atEnd uncommitted⟩
  · exact (SessionItems.endReported_of_committed _ atEnd uncommitted committed).2
  · refine (SessionItems.endReported_of_not_committed _ atEnd uncommitted ?_ kept).trans sameContent
    obtain notCommitted | bad := unsuccessful
    · exact notCommitted
    · rw [Bool.eq_false_iff]
      exact fun committed =>
        bad (SessionItems.endReported_of_committed _ atEnd uncommitted committed).1

theorem persisted_of_report_of_quiet_session :
    ∃ report after ended atEnd tracking, run 1 (oneSource [] {}) = some (.ok report, after) ∧
      after.sources[0]? = some ended ∧
      Source.tracking (atEnd : Source ScriptedBackend MemoryNode) = some tracking ∧
      ended.persisted = some (.ok (tracking.commitMap atEnd.current)) := by
  obtain ⟨report, after, sourceReport, ran, reported, committed⟩ : ∃ report after sourceReport,
      run 1 (oneSource [] {}) = some (.ok report, after) ∧
        report.sources.get? "notes" = some sourceReport ∧ sourceReport.committed = true :=
    ⟨_, _, _, rfl, rfl, rfl⟩
  have distinct : ((oneSource [] {}).sources.map Source.name).Nodup := by simp [oneSource]
  have found : (oneSource [] {}).sources[0]? = some (oneSource [] {}).sources[0] := rfl
  obtain ⟨ending, session, atEnd, reportAtEnd, ended, other, -, -, -, foundEnded, found, told, -⟩ :=
    persisted_of_report ran distinct found
  cases found.symm.trans reported
  obtain ⟨tracking, tracked, holds⟩ := told committed
  exact ⟨report, after, ended, atEnd, tracking, ran, foundEnded, tracked, holds⟩

/-- Whoever opens the node of a source after a run finds the revisions that the source is reported to have
committed, and also those that were saved before its backend could not be closed.  Otherwise nothing is
found that might not have been found before the sources were ended, if the node refuses without a
trace. -/
theorem left_behind_of_report [NamedBackend β] [ReopenableNode ν] {horizon : Nat}
    {setting after : Setting α β ν χ υ} {report : SyncReport}
    (ran : run horizon setting = some (.ok report, after))
    (distinct : (setting.sources.map Source.name).Nodup) {index : Nat} {source : Source β ν}
    (found : setting.sources[index]? = some source) :
    ∃ ending session atEnd reportAtEnd ended sourceReport,
      Exchanges horizon setting ending session ∧
      session.items.sources[index]? = some atEnd ∧
      session.items.reports.get? source.name = some reportAtEnd ∧
      after.sources[index]? = some ended ∧
      report.sources.get? source.name = some sourceReport ∧
      (sourceReport.committed = true → ∃ tracking, atEnd.tracking = some tracking ∧
        ended.LeavesBehind (tracking.commitMap atEnd.current)) ∧
      (∀ tracking, SessionItems.LosesCommit (endingStatus ending).isSuccess atEnd reportAtEnd
          tracking →
        ((RevisionStore.save (tracking.commitMap atEnd.current)).on tracking.node).1 = .ok () →
        ended.LeavesBehind (tracking.commitMap atEnd.current)) ∧
      ∀ tracking, atEnd.tracking = some tracking → sourceReport.committed = false →
        ¬ SessionItems.LosesCommit (endingStatus ending).isSuccess atEnd reportAtEnd tracking →
        ReopenableNode.HidesRefusals tracking.node →
        ∃ left, ended.tracking = some left ∧ ∀ {found}, ReopenableNode.Reopens left.node found →
          ReopenableNode.Reopens tracking.node found := by
  obtain ⟨ending, session, atEnd, reportAtEnd, exchanges, foundAtEnd, -, reported,
    uncommitted, foundEnded, foundReport⟩ := ended_of_run ran distinct found
  refine ⟨ending, session, atEnd, reportAtEnd, _, _, exchanges, foundAtEnd, reported,
    foundEnded, foundReport, fun committed => ?_, fun tracking loses saved => ?_,
    fun tracking tracked told kept hides => ?_⟩
  · exact SessionItems.leavesBehind_endReported_of_committed _ atEnd uncommitted committed
  · exact SessionItems.leavesBehind_endReported_of_lost _ atEnd uncommitted loses saved
  · exact SessionItems.reopens_endReported_of_not_committed _ atEnd uncommitted told tracked hides kept

/-- A backend that cannot be closed loses the commit: the report denies it, but the node was
written. -/
theorem lost_commit_of_failing_close :
    ∃ report after source ended sourceReport,
      run 1 (oneSource [(.closing, .io (.ofKind .brokenPipe))] {}) = some (.ok report, after) ∧
      (oneSource [(.closing, .io (.ofKind .brokenPipe))] {}).sources = [source] ∧
      after.sources = [ended] ∧ report.sources.get? source.name = some sourceReport ∧
      sourceReport.committed = false ∧ sourceReport.status = .datastoreFailure ∧
      ended.persisted ≠ source.persisted := by
  refine ⟨_, _, _, _, _, rfl, rfl, rfl, rfl, rfl, rfl, fun same => ?_⟩
  have revisions : some (.ok (.ofList [("1", "1")])) =
      (some (.ok (.ofList [("2", "7")])) : Option (Except StorageError Properties)) := same
  have different : (Table.ofList [("1", "1")] : Properties) ≠ .ofList [("2", "7")] := by decide
  exact different (Except.ok.inj (Option.some.inj revisions))

end Synchronizer

end DataSync
