import DataSync.Proofs.Source.Persisted
import DataSync.Proofs.Session.Steady

/-!
# The end of all sources

A session that ends ends its sources one after the other, each with its own report.  A source commits
only after a session that went well, and its report says so exactly if the source does.
-/

namespace DataSync

namespace SessionItems

open DataSync.Action

variable {β ν : Type} [Backend β] [PropertyNode ν]

/-- The report that takes over the failure of its source. -/
def reportAtEnd (source : Source β ν) (report : SourceReport) : SourceReport :=
  match source.failure with
  | some reason => report.failStore reason
  | none => report

omit [Backend β] [PropertyNode ν] in
theorem committed_reportAtEnd (source : Source β ν) (report : SourceReport) :
    (reportAtEnd source report).committed = report.committed := by
  unfold reportAtEnd
  split
  · exact committed_fail _ _ _
  · rfl

theorem endSource_eq (success : Bool) (source : Source β ν) (report : SourceReport) :
    endSource success source report =
      match (Source.endSync (success && (reportAtEnd source report).status.isSuccess)).on source with
      | (.ok committed, after) => (after, { reportAtEnd source report with committed })
      | (.error e, after) => (after, (reportAtEnd source report).failStore e.message) := rfl

def asks (success : Bool) (source : Source β ν) (report : SourceReport) : Bool :=
  success && (reportAtEnd source report).status.isSuccess

/-- The report takes over the answer of its source, and stays a good one if the source commits. -/
theorem endSource_answer (success : Bool) (source : Source β ν) {report : SourceReport}
    (uncommitted : report.committed = false) :
    (endSource success source report).1 =
        (Source.endSync (asks success source report)).stateAfter source ∧
      ((endSource success source report).2.committed = true ↔
        ((Source.endSync (asks success source report)).on source).1 = .ok true) ∧
      ((endSource success source report).2.committed = true →
        (endSource success source report).2.status = .ok) := by
  have stillUncommitted := (committed_reportAtEnd source report).trans uncommitted
  rw [endSource_eq, ← asks]
  cases ended : (Source.endSync (asks success source report)).on source with
  | mk answer after =>
    cases answer with
    | error e =>
      have failed : ((reportAtEnd source report).failStore e.message).committed = false :=
        (committed_fail _ _ _).trans stillUncommitted
      simp [stateAfter, ended, failed]
    | ok committed =>
      refine ⟨by rw [stateAfter, ended], by simp, fun told => ?_⟩
      -- A source commits only if it was asked to, and so only if its report was good.
      have answered := Source.endSync_eq_ok_true.1 ((congrArg Prod.fst ended).trans (congrArg _ told))
      simpa [SyncStatus.isSuccess] using (Bool.and_eq_true_iff.1 answered.1).2

/-- The end of a source that has a report, if it takes part. -/
def endReported (success : Bool) (source : Source β ν) (report : SourceReport) :
    Source β ν × SourceReport :=
  if report.mode.isEnabled then endSource success source report else (source, report)

theorem endAll_cons {success : Bool} {source : Source β ν} {rest : List (Source β ν)}
    {reports : Table SourceReport} {report : SourceReport}
    (reported : reports.get? source.name = some report) :
    endAll success reports (source :: rest) =
      { sources := (endReported success source report).1 ::
          (endAll success (reports.insert source.name (endReported success source report).2)
            rest).sources
        reports := (endAll success (reports.insert source.name
          (endReported success source report).2) rest).reports } := by
  rw [endAll]
  simp only [reported, endReported]
  by_cases enabled : report.mode.isEnabled
  · simp only [enabled, if_true]
  · -- A source that takes no part keeps its report, so that entering it changes nothing.
    have same : reports.insert source.name report = reports := by
      apply Table.ext_get?
      intro name
      by_cases equal : name = source.name <;> simp [equal, reported]
    simp only [enabled, Bool.false_eq_true, if_false, same]

theorem endAll_cons_unreported {success : Bool} {source : Source β ν} {rest : List (Source β ν)}
    {reports : Table SourceReport} (unreported : reports.get? source.name = none) :
    endAll success reports (source :: rest) =
      { sources := source :: (endAll success reports rest).sources
        reports := (endAll success reports rest).reports } := by
  rw [endAll]
  simp only [unreported]

/-! ## Sessions that did not go well -/

theorem endReported_of_failure (source : Source β ν) {report : SourceReport}
    (uncommitted : report.committed = false) :
    (endReported false source report).1.persisted = source.persisted ∧
      (endReported false source report).2.committed = false := by
  unfold endReported
  by_cases enabled : report.mode.isEnabled
  · simp only [enabled, if_true]
    obtain ⟨ended, answered, -⟩ := endSource_answer false source uncommitted
    -- The source is not even asked to commit.
    have spoiled : ¬ (asks false source report = true ∧ source.Usable) := by simp [asks]
    constructor
    · rw [ended, Source.persisted, Source.persisted,
        Source.tracking_endSync_without_commit spoiled]
    · rw [Bool.eq_false_iff]
      intro committed
      obtain ⟨asked, usable, -⟩ := Source.endSync_eq_ok_true.1 (answered.1 committed)
      exact spoiled ⟨asked, usable⟩
  · simp only [enabled, Bool.false_eq_true, if_false]
    exact ⟨trivial, uncommitted⟩

theorem endAll_of_failure (sources : List (Source β ν)) (reports : Table SourceReport)
    (uncommitted : Uncommitted reports) :
    (endAll false reports sources).sources.map Source.persisted =
        sources.map Source.persisted ∧
      Uncommitted (endAll false reports sources).reports := by
  induction sources generalizing reports with
  | nil => exact ⟨rfl, uncommitted⟩
  | cons source rest inductionHypothesis =>
    cases reported : reports.get? source.name with
    | none =>
      rw [endAll_cons_unreported reported]
      have others := inductionHypothesis reports uncommitted
      exact ⟨congrArg (source.persisted :: ·) others.1, others.2⟩
    | some report =>
      rw [endAll_cons reported]
      have ended := endReported_of_failure source (uncommitted _ _ reported)
      have others := inductionHypothesis _ (uncommitted.insert source.name ended.2)
      exact ⟨by simp [ended.1, others.1], others.2⟩

/-! ## Sessions of sources with different names -/

/-- A source that takes part in a session that went well, and is fine itself, but loses its
commit. -/
structure LosesCommit (success : Bool) (source : Source β ν) (report : SourceReport)
    (tracking : Tracking ν) : Prop where
  success_eq : success = true
  enabled : report.mode.isEnabled = true
  status_eq : report.status = .ok
  lost : source.LosesCommit tracking

theorem LosesCommit.asks_eq {success : Bool} {source : Source β ν} {report : SourceReport}
    {tracking : Tracking ν} (loses : LosesCommit success source report tracking) :
    asks success source report = true := by
  simp [asks, reportAtEnd, loses.lost.usable.2, loses.success_eq, loses.status_eq,
    SyncStatus.isSuccess]

theorem losesCommit_of_asks {success : Bool} {source : Source β ν} {report : SourceReport}
    {tracking : Tracking ν} (enabled : report.mode.isEnabled = true)
    (asked : asks success source report = true) (lost : source.LosesCommit tracking) :
    LosesCommit success source report tracking := by
  simp only [asks, reportAtEnd, lost.usable.2, SyncStatus.isSuccess, Bool.and_eq_true,
    decide_eq_true_eq] at asked
  exact ⟨asked.1, enabled, asked.2, lost⟩

section Reports

variable [LawfulNode ν] (success : Bool) (source : Source β ν) {report : SourceReport}

theorem endReported_of_committed (uncommitted : report.committed = false)
    (committed : (endReported success source report).2.committed = true) :
    (endReported success source report).2.status = .ok ∧
      ∃ tracking, source.tracking = some tracking ∧
        (endReported success source report).1.persisted =
          some (.ok (tracking.commitMap source.current)) := by
  unfold endReported at committed ⊢
  by_cases enabled : report.mode.isEnabled
  · simp only [enabled, if_true] at committed ⊢
    obtain ⟨ended, answered, good⟩ := endSource_answer success source uncommitted
    rw [ended]
    exact ⟨good committed, Source.persisted_endSync_of_committed (answered.1 committed)⟩
  · simp [enabled, uncommitted] at committed

theorem endReported_of_lost (uncommitted : report.committed = false) {tracking : Tracking ν}
    (loses : LosesCommit success source report tracking) :
    (endReported success source report).2.committed = false ∧
      (endReported success source report).1.persisted =
        some (.ok (tracking.commitMap source.current)) := by
  obtain ⟨ended, answered, -⟩ := endSource_answer success source uncommitted
  rw [loses.asks_eq] at ended answered
  unfold endReported
  rw [if_pos loses.enabled, ended]
  refine ⟨?_, loses.lost.persisted⟩
  rw [Bool.eq_false_iff]
  exact fun committed => loses.lost.not_committed (answered.1 committed)

theorem endReported_of_not_committed (uncommitted : report.committed = false)
    (told : (endReported success source report).2.committed = false)
    (kept : ∀ tracking, ¬ LosesCommit success source report tracking) :
    (endReported success source report).1.persisted = source.persisted := by
  unfold endReported at told ⊢
  by_cases enabled : report.mode.isEnabled
  · simp only [enabled, if_true] at told ⊢
    obtain ⟨ended, answered, -⟩ := endSource_answer success source uncommitted
    rw [ended]
    apply Source.persisted_endSync_of_not_committed
    · intro committed
      rw [answered.2 committed] at told
      cases told
    · exact fun asked tracking lost => kept tracking (losesCommit_of_asks enabled asked lost)
  · simp [enabled]

end Reports

section LaterOwners

variable [ReopenableNode ν] (success : Bool) (source : Source β ν) {report : SourceReport}

theorem leavesBehind_endReported_of_committed (uncommitted : report.committed = false)
    (committed : (endReported success source report).2.committed = true) :
    ∃ tracking, source.tracking = some tracking ∧
      (endReported success source report).1.LeavesBehind (tracking.commitMap source.current) := by
  unfold endReported at committed ⊢
  by_cases enabled : report.mode.isEnabled
  · simp only [enabled, if_true] at committed ⊢
    obtain ⟨ended, answered, -⟩ := endSource_answer success source uncommitted
    rw [ended]
    exact Source.leavesBehind_endSync_of_committed (answered.1 committed)
  · simp [enabled, uncommitted] at committed

theorem leavesBehind_endReported_of_lost (uncommitted : report.committed = false)
    {tracking : Tracking ν} (loses : LosesCommit success source report tracking)
    (saved : ((RevisionStore.save (tracking.commitMap source.current)).on tracking.node).1 = .ok ()) :
    (endReported success source report).1.LeavesBehind (tracking.commitMap source.current) := by
  obtain ⟨ended, -, -⟩ := endSource_answer success source uncommitted
  rw [loses.asks_eq] at ended
  unfold endReported
  rw [if_pos loses.enabled, ended]
  exact loses.lost.leavesBehind saved

/-- A node that refuses without a trace is found again as it was when the session ended. -/
theorem reopens_endReported_of_not_committed (uncommitted : report.committed = false)
    (told : (endReported success source report).2.committed = false) {tracking : Tracking ν}
    (tracked : source.tracking = some tracking)
    (hides : ReopenableNode.HidesRefusals tracking.node)
    (kept : ¬ LosesCommit success source report tracking) :
    ∃ left, (endReported success source report).1.tracking = some left ∧
      ∀ {found}, ReopenableNode.Reopens left.node found →
        ReopenableNode.Reopens tracking.node found := by
  unfold endReported at told ⊢
  by_cases enabled : report.mode.isEnabled
  · simp only [enabled, if_true] at told ⊢
    obtain ⟨ended, answered, -⟩ := endSource_answer success source uncommitted
    rw [ended]
    apply Source.reopens_of_not_committed tracked hides
    · intro committed
      rw [answered.2 committed] at told
      cases told
    · exact fun asked lost => kept (losesCommit_of_asks enabled asked lost)
  · simp only [enabled, Bool.false_eq_true, if_false]
    exact ⟨tracking, tracked, id⟩

end LaterOwners

theorem endAll_reports_other (success : Bool) {name : String} (sources : List (Source β ν))
    (reports : Table SourceReport) (other : name ∉ sources.map Source.name) :
    (endAll success reports sources).reports.get? name = reports.get? name := by
  induction sources generalizing reports with
  | nil => rfl
  | cons source rest inductionHypothesis =>
    simp only [List.map_cons, List.mem_cons, not_or] at other
    cases reported : reports.get? source.name with
    | none =>
      rw [endAll_cons_unreported reported]
      exact inductionHypothesis reports other.2
    | some report =>
      rw [endAll_cons reported]
      simp [inductionHypothesis _ other.2, other.1]

/-- Each source is ended with the report under its name, and no other source touches it. -/
theorem endAll_getElem? (success : Bool) {sources : List (Source β ν)}
    {reports : Table SourceReport} (distinct : (sources.map Source.name).Nodup) {index : Nat}
    {source : Source β ν} (found : sources[index]? = some source) {report : SourceReport}
    (reported : reports.get? source.name = some report) :
    (endAll success reports sources).sources[index]? =
        some (endReported success source report).1 ∧
      (endAll success reports sources).reports.get? source.name =
        some (endReported success source report).2 := by
  induction sources generalizing reports index with
  | nil => simp at found
  | cons head rest inductionHypothesis =>
    simp only [List.map_cons, List.nodup_cons] at distinct
    cases index with
    | zero =>
      cases found
      rw [endAll_cons reported]
      simp [endAll_reports_other success rest _ distinct.1]
    | succ index =>
      -- The source before it has another name, and so another report.
      have later : rest[index]? = some source := by simpa using found
      have different : source.name ≠ head.name := fun same =>
        distinct.1 (same ▸ List.mem_map_of_mem (List.mem_of_getElem? later))
      cases first : reports.get? head.name with
      | none =>
        rw [endAll_cons_unreported first]
        exact inductionHypothesis distinct.2 later reported
      | some headReport =>
        rw [endAll_cons first]
        exact inductionHypothesis distinct.2 later (by simpa [different] using reported)

end SessionItems

end DataSync
