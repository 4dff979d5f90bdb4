import DataSync.Proofs.Session.Commits
import DataSync.Proofs.Session.Reported

/-!
# Sessions that went well

What a run has to report success for: the engine began and ended the session with success, and every
source that takes part began, was spared failures of its data store and ended without error.  There is
one exception.  An engine may end the session as failed and give the status of success; such a run is
reported as a success together with the reason for its failure.
-/

namespace DataSync

open DataSync.Action

/-! ## Reports -/

namespace SyncReport

/-- The sources of a session leave its report as it is, or one of them failed and the report is none
of a success. -/
theorem withSources_cases (sources : Table SourceReport) (report : SyncReport) :
    (sources.entries.all (·.2.status.isSuccess) = true ∧
      report.withSources sources = { report with sources }) ∨
    (sources.entries.all (·.2.status.isSuccess) = false ∧
      (report.withSources sources).isSuccess = false) := by
  unfold withSources
  cases found : sources.entries.find? fun entry => !entry.2.status.isSuccess with
  | none => exact .inl ⟨by simpa using found, rfl⟩
  | some entry =>
    have failed : entry.2.status.isSuccess = false := by simpa using List.find?_some found
    have bad : sources.entries.all (·.2.status.isSuccess) = false :=
      List.all_eq_false.2 ⟨entry, List.mem_of_find?_eq_some found, by simp [failed]⟩
    refine .inr ⟨bad, ?_⟩
    dsimp only
    split <;> simp [isSuccess, bad]

theorem isSuccess_withSources (sources : Table SourceReport) (report : SyncReport) :
    (report.withSources sources).isSuccess = true ↔ report.status.isSuccess = true ∧
      ∀ name sourceReport, sources.get? name = some sourceReport →
        sourceReport.status.isSuccess = true := by
  have entries : sources.entries.all (·.2.status.isSuccess) = true ↔ ∀ name sourceReport,
      sources.get? name = some sourceReport → sourceReport.status.isSuccess = true := by
    simp [Table.get?_eq_some_iff]
  rw [← entries]
  obtain ⟨good, same⟩ | ⟨bad, unsuccessful⟩ := withSources_cases sources report
  · rw [same, isSuccess, Bool.and_eq_true]
  · simp [unsuccessful, bad]

theorem error_withSources {sources : Table SourceReport} {report : SyncReport}
    (good : (report.withSources sources).isSuccess = true) :
    (report.withSources sources).error = report.error := by
  obtain ⟨-, same⟩ | ⟨-, unsuccessful⟩ := withSources_cases sources report
  · rw [same]
  · exact absurd good (by simp [unsuccessful])

end SyncReport

theorem SyncError.status_ne_ok (e : SyncError) : e.status ≠ .ok := by
  cases e with
  | source cause => cases fatal : cause.isFatal <;> simp [SyncError.status, fatal]
  | _ => simp [SyncError.status]

/-- A session has the status of success if the engine ended it with success, or as failed with this
status. -/
theorem endingStatus_eq_ok {ending : Except SyncError SessionEnd} : endingStatus ending = .ok ↔
    ending = .ok .success ∨ ∃ reason, ending = .ok (.failed .ok reason) := by
  cases ending with
  | error e => simp [endingStatus, e.status_ne_ok]
  | ok ending => cases ending <;> simp [endingStatus, SessionEnd.status]

/-! ## The end of sources -/

namespace SessionItems

variable {β ν : Type} [Backend β] [PropertyNode ν]

/-- At the end of a session that went well so far, only a failure to end a source can still spoil its
report. -/
theorem isSuccess_endReported {source : Source β ν} {report : SourceReport}
    (sound : report.mode.isEnabled = true → report.status.isSuccess = true →
      source.failure = none) :
    (endReported true source report).2.status.isSuccess = true ↔
      report.status.isSuccess = true ∧ (report.mode.isEnabled = true →
        ∃ committed, ((Source.endSync true).on source).1 = .ok committed) := by
  unfold endReported
  cases enabled : report.mode.isEnabled with
  | false => simp
  | true =>
    rw [if_pos rfl, endSource_eq]
    cases good : report.status.isSuccess with
    | true =>
      have fine : reportAtEnd source report = report := by
        rw [reportAtEnd, sound enabled good]
      rw [fine, good, Bool.and_self]
      rcases (Source.endSync true).on source with ⟨e | committed, ended⟩
      · simp [SourceReport.isSuccess_failStore]
      · simp [good]
    | false =>
      have spoilt : (reportAtEnd source report).status.isSuccess = false := by
        unfold reportAtEnd
        split
        · exact SourceReport.isSuccess_failStore _ _
        · exact good
      rcases (Source.endSync (true && (reportAtEnd source report).status.isSuccess)).on source with
        ⟨e | committed, ended⟩
      · simp [SourceReport.isSuccess_failStore]
      · simp [spoilt]

end SessionItems

namespace Synchronizer

variable {α β ν χ υ : Type} [Agent α] [Backend β] [PropertyNode ν] [UserInterface υ]
  [Surroundings α (Happening β ν)] [Engine χ (Happening β ν)] {horizon : Nat}
  {setting after : Setting α β ν χ υ} {report : SyncReport}

/-- The engine of a setting begins without error when the session gets its password. -/
def EngineBegins (setting : Setting α β ν χ υ) : Prop :=
  ∃ password person,
    (setting.synchronizer.config.resolvePassword).on setting.person = (.ok password, person) ∧
      ((Engine.begin (Happening β ν) (sessionInfo setting.synchronizer.config password)
        (SessionItems.beginAll setting.synchronizer.config .empty [] setting.sources).2).on
          setting.engine).1 = .ok ()

/-- A source did well from the beginning of the session to its end. -/
structure WentWell (config : SyncConfig) (minutes : List Minute) (initial atEnd : Source β ν) :
    Prop where
  began : ∃ changes,
    ((Source.beginSync (config.modeFor initial.name)).on initial).1 = .ok changes
  spared : Spared initial.name minutes
  ended : ∃ committed, ((Source.endSync true).on atEnd).1 = .ok committed

/-- The engine began, and each source that takes part did well. -/
structure AllWentWell (setting : Setting α β ν χ υ) (minutes : List Minute)
    (session : Session α β ν) : Prop where
  engineBegins : EngineBegins setting
  wentWell : ∀ (index : Nat) (initial atEnd : Source β ν), setting.sources[index]? = some initial →
    session.items.sources[index]? = some atEnd →
    (setting.synchronizer.config.modeFor initial.name).isEnabled = true →
    WentWell setting.synchronizer.config minutes initial atEnd

theorem Exchanges.engineBegins {ending : Except SyncError SessionEnd} {session : Session α β ν}
    (exchanges : Exchanges horizon setting ending session) (good : endingStatus ending = .ok) :
    EngineBegins setting := by
  obtain ⟨password, person, engine, resolved, exchanged⟩ := exchanges
  refine ⟨password, person, resolved, ?_⟩
  rw [exchange_eq_some_iff] at exchanged
  obtain ⟨e, _, -, proceeded⟩ | ⟨engine, begins, -⟩ := proceed_cases horizon password setting
  · cases proceeded.symm.trans exchanged
    exact absurd good (SyncError.status_ne_ok _)
  · rw [begins]

variable [NamedBackend β] {ending : Except SyncError SessionEnd} {minutes : List Minute}
  {session : Session α β ν}

theorem Proceeds.reported (proceeds : Proceeds horizon setting ending minutes session)
    (distinct : (setting.sources.map Source.name).Nodup) :
    Reported setting.synchronizer.config setting.sources minutes session.items :=
  (reported_invariant _ _).proceeds (reported_begun _ distinct) proceeds

/-- Each source is ended with the report that was begun for it, in the mode of the configuration. -/
theorem Exchanges.source_ends (exchanges : Exchanges horizon setting ending session)
    (distinct : (setting.sources.map Source.name).Nodup) {index : Nat} {source : Source β ν}
    (found : setting.sources[index]? = some source) (success : Bool) :
    ∃ atEnd sourceReport,
      session.items.sources[index]? = some atEnd ∧ atEnd.name = source.name ∧
      session.items.reports.get? source.name = some sourceReport ∧
      sourceReport.mode = setting.synchronizer.config.modeFor source.name ∧
      (SessionItems.endAll success session.items.reports session.items.sources).sources[index]? =
        some (SessionItems.endReported success atEnd sourceReport).1 ∧
      (SessionItems.endAll success session.items.reports session.items.sources).reports.get?
        source.name = some (SessionItems.endReported success atEnd sourceReport).2 := by
  obtain ⟨minutes, proceeds⟩ := exchanges.proceeds
  obtain ⟨atEnd, sourceReport, foundAtEnd, named, -, foundReport, -⟩ :=
    exchanges.source_at_end found
  have mode := ((proceeds.reported distinct).tells _ _ foundReport).2.1
  -- The sources have different names at the end, too, so that none is ended with another's report.
  have distinctAtEnd : (session.items.sources.map Source.name).Nodup := by
    rw [(exchanges.steady Source.Fixed.name).features_eq]
    exact distinct
  have ended := SessionItems.endAll_getElem? success distinctAtEnd foundAtEnd
    (named.symm ▸ foundReport)
  rw [named] at ended
  exact ⟨atEnd, sourceReport, foundAtEnd, named, foundReport, mode, ended.1, ended.2⟩

/-- The report of a source that ended without failure of the session tells whether the source did
well. -/
theorem Proceeds.isSuccess_endAll (proceeds : Proceeds horizon setting ending minutes session)
    (distinct : (setting.sources.map Source.name).Nodup) {index : Nat} {initial atEnd : Source β ν}
    (found : setting.sources[index]? = some initial)
    (foundAtEnd : session.items.sources[index]? = some atEnd) :
    ∃ sourceReport,
      (SessionItems.endAll true session.items.reports session.items.sources).reports.get?
        initial.name = some sourceReport ∧
      (sourceReport.status.isSuccess = true ↔
        ((setting.synchronizer.config.modeFor initial.name).isEnabled = true →
          WentWell setting.synchronizer.config minutes initial atEnd)) := by
  have reported := proceeds.reported distinct
  obtain ⟨_, sourceReport, foundAtEnd', named, foundReport, mode, -, foundEnded⟩ :=
    proceeds.exchanges.source_ends distinct found true
  cases foundAtEnd.symm.trans foundAtEnd'
  obtain ⟨-, -, good⟩ := reported.tells _ _ foundReport
  have sound := reported.sound atEnd (List.mem_of_getElem? foundAtEnd) sourceReport
    (named.symm ▸ foundReport)
  refine ⟨_, foundEnded, ?_⟩
  rw [SessionItems.isSuccess_endReported sound, good, mode]
  -- No other source has the name, so that this is the one that began under it.
  have member := List.mem_of_getElem? found
  constructor
  · rintro ⟨⟨begins, spared⟩, ended⟩ enabled
    exact ⟨begins initial member rfl enabled, spared enabled, ended enabled⟩
  · intro wentWell
    refine ⟨⟨fun other otherMember same enabled => ?_, fun enabled => (wentWell enabled).spared⟩,
      fun enabled => (wentWell enabled).ended⟩
    obtain rfl := List.inj_on_of_nodup_map distinct otherMember member same
    exact (wentWell enabled).began

theorem Proceeds.isSuccess_finish (proceeds : Proceeds horizon setting ending minutes session)
    (distinct : (setting.sources.map Source.name).Nodup) :
    (finish setting.synchronizer.config ending session).1.isSuccess = true ↔
      endingStatus ending = .ok ∧ AllWentWell setting minutes session := by
  have exchanges := proceeds.exchanges
  have steady := exchanges.steady Source.Fixed.name
  simp only [finish, SyncReport.isSuccess_withSources, status_conclude]
  rw [SyncStatus.isSuccess, decide_eq_true_eq]
  refine and_congr_right fun good => ?_
  simp only [good, decide_true]
  constructor
  · intro allGood
    refine ⟨exchanges.engineBegins good, fun index initial atEnd found foundAtEnd => ?_⟩
    obtain ⟨sourceReport, foundReport, goodReport⟩ :=
      proceeds.isSuccess_endAll distinct found foundAtEnd
    exact goodReport.1 (allGood _ _ foundReport)
  · intro allWentWell name sourceReport foundReport
    -- There is a report under the names of sources only.
    obtain ⟨initial, member, rfl⟩ : ∃ initial ∈ setting.sources, initial.name = name := by
      by_contra absent
      rw [SessionItems.endAll_reports_other] at foundReport
      · exact absent ((proceeds.reported distinct).tells name sourceReport foundReport).1
      · rw [steady.features_eq]
        simpa using absent
    obtain ⟨index, found⟩ := List.mem_iff_getElem?.1 member
    obtain ⟨atEnd, -, foundAtEnd, -⟩ := exchanges.source_at_end found
    obtain ⟨_, foundReport', goodReport⟩ := proceeds.isSuccess_endAll distinct found foundAtEnd
    cases foundReport.symm.trans foundReport'
    exact goodReport.2 (allWentWell.wentWell index initial atEnd found foundAtEnd)

/-- A run that returns a report over sources of different names reports success exactly if the engine
began and ended the session with success and all sources that take part did well, and then it gives no
reason for a failure; unless the engine ended the session as failed with the status of success.  Then
it reports success exactly if the engine began and all sources did well, and gives the reason of the
engine all the same. -/
theorem reports_success_iff (ran : run horizon setting = some (.ok report, after))
    (distinct : (setting.sources.map Source.name).Nodup) :
    ∃ ending minutes session, Proceeds horizon setting ending minutes session ∧
      session.items.sources.map Source.name = setting.sources.map Source.name ∧
      ((∀ reason, ending ≠ .ok (.failed .ok reason)) →
        (report.isSuccess = true ↔ ending = .ok .success ∧ AllWentWell setting minutes session) ∧
        (report.isSuccess = true → report.error = none)) ∧
      ∀ reason, ending = .ok (.failed .ok reason) →
        (report.isSuccess = true ↔ AllWentWell setting minutes session) ∧
        (report.isSuccess = true → report.error = some reason) := by
  obtain ⟨e, same, -⟩ | ⟨ending, session, exchanges, same, -⟩ := run_cases ran
  · cases same
  cases same
  obtain ⟨minutes, proceeds⟩ := exchanges.proceeds
  refine ⟨ending, minutes, session, proceeds, (exchanges.steady Source.Fixed.name).features_eq,
    fun regular => ⟨?_, fun good => ?_⟩, ?_⟩
  · rw [proceeds.isSuccess_finish distinct, endingStatus_eq_ok]
    simp [regular]
  · obtain ⟨status, -⟩ := (proceeds.isSuccess_finish distinct).1 good
    obtain rfl | ⟨reason, odd⟩ := endingStatus_eq_ok.1 status
    · exact SyncReport.error_withSources good
    · exact absurd odd (regular reason)
  · rintro reason rfl
    refine ⟨?_, fun good => SyncReport.error_withSources good⟩
    rw [proceeds.isSuccess_finish distinct]
    simp [endingStatus, SessionEnd.status]

/-- An engine that reads the only note and ends the session like this. -/
def readingEngine (ending : SessionEnd) : PlannedEngine StageHappening :=
  { steps := [{ acts := [.read "notes" "1"], command := .ok (.finish ending) }] }

theorem reports_success_of_reading_engine :
    ∃ report after minutes session,
      run 1 (oneSource [] (readingEngine .success)) = some (.ok report, after) ∧
      ((oneSource [] (readingEngine .success)).sources.map Source.name).Nodup ∧
      report.isSuccess = true ∧ report.error = none ∧
      AllWentWell (oneSource [] (readingEngine .success)) minutes session := by
  have distinct : ((oneSource [] (readingEngine .success)).sources.map Source.name).Nodup := by
    simp [oneSource]
  obtain ⟨report, after, ran, good⟩ : ∃ report after,
      run 1 (oneSource [] (readingEngine .success)) = some (.ok report, after) ∧
        report.isSuccess = true := ⟨_, _, rfl, rfl⟩
  obtain ⟨_, exchanges⟩ : ∃ session,
      Exchanges 1 (oneSource [] (readingEngine .success)) (.ok .success) session :=
    ⟨_, _, _, _, rfl, rfl⟩
  obtain ⟨ending, minutes, session, proceeds, -, regular, -⟩ := reports_success_iff ran distinct
  obtain ⟨rfl, -⟩ := exchanges.unique proceeds.exchanges
  obtain ⟨success, unexplained⟩ := regular (by simp)
  exact ⟨report, after, minutes, session, ran, distinct, good, unexplained good, (success.1 good).2⟩

/-- A session that the engine ends as failed, with the status of success, is reported as a success
with the reason for its failure. -/
theorem failure_reported_as_success :
    ∃ report after ending minutes session,
      run 1 (oneSource [] (readingEngine (.failed .ok "peer refused"))) =
        some (.ok report, after) ∧
      Proceeds 1 (oneSource [] (readingEngine (.failed .ok "peer refused"))) ending minutes
        session ∧
      ending ≠ .ok .success ∧ report.isSuccess = true ∧ report.error = some "peer refused" := by
  refine ⟨_, _, _, _, _, rfl, ⟨_, _, _, rfl, rfl⟩, ?_, rfl, rfl⟩
  simp

end Synchronizer

end DataSync
