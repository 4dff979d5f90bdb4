import DataSync.Proofs.Session.Success
import DataSync.Session.LocalTarget

/-!
# Modes of local sessions

Both sides of a local session go by the configuration of this one.  Here the mode of a source is that
of the first entry under its name, and two-way if there is none.  The child is asked for every entry
that is enabled.  The sides see a source alike if it has an entry, and none of the later ones of its
name is enabled; the child is not asked for a source without an entry, though it runs here.
-/

namespace DataSync

@[simp] theorem SyncMode.ofName?_name (mode : SyncMode) : ofName? mode.name = .ok mode := by
  cases mode <;> rfl

namespace SyncConfig

/-- The entries under a name. -/
def entriesOf (name : String) (config : SyncConfig) : List SourceConfig :=
  config.sources.filter (·.name = name)

/-- What the child for a context is asked for under a name. -/
def requestsOf (context name : String) (config : SyncConfig) : List Local.SourceRequest :=
  (config.localRequest context).sources.filter (·.name = name)

/-- The requests are those for a source that runs in this mode here: one with the mode as the other
side sees it, or none if the source takes no part. -/
def Mirrors (mode : SyncMode) (requests : List Local.SourceRequest) : Prop :=
  if mode.isEnabled then
    ∃ request, requests = [request] ∧ SyncMode.ofName? request.mode = .ok mode.inverted
  else requests = []

/-- There is an entry under the name, and no later one is enabled. -/
def ListedOnce (name : String) (config : SyncConfig) : Prop :=
  ∃ first later, config.entriesOf name = first :: later ∧
    ∀ entry ∈ later, entry.mode.isEnabled = false

variable (config : SyncConfig) (context name : String)

theorem modeFor_eq :
    config.modeFor name = (config.entriesOf name).head?.elim .twoWay (·.mode) := by
  rw [modeFor, entriesOf, List.head?_filter]

/-- Whatever the other entries are, the requests under a name are those for its own entries. -/
theorem requestsOf_eq :
    config.requestsOf context name =
      ((config.entriesOf name).filter (·.mode.isEnabled)).map localSource := by
  rw [requestsOf, localRequest, List.filter_map, entriesOf, List.filter_comm]
  rfl

theorem mirrors_iff :
    Mirrors (config.modeFor name) (config.requestsOf context name) ↔ config.ListedOnce name := by
  rw [modeFor_eq, requestsOf_eq]
  unfold ListedOnce
  cases config.entriesOf name with
  | nil => simp [Mirrors, SyncMode.isEnabled]
  | cons first later =>
    -- The first entry decides here, and each later one that is enabled adds a request.
    cases enabled : first.mode.isEnabled <;> simp [Mirrors, localSource, enabled]

end SyncConfig

/-! ## Modes of a run -/

theorem SessionItems.mode_endReported {β ν : Type} [Backend β] [PropertyNode ν] (success : Bool)
    (source : Source β ν) (report : SourceReport) :
    (endReported success source report).2.mode = report.mode := by
  have atEnd : (reportAtEnd source report).mode = report.mode := by
    unfold reportAtEnd
    split
    · exact SourceReport.mode_failStore _ _
    · rfl
  unfold endReported
  split
  · rw [endSource_eq]
    split
    · exact atEnd
    · exact (SourceReport.mode_failStore _ _).trans atEnd
  · rfl

namespace Synchronizer

variable {α β ν χ υ : Type} [Agent α] [Backend β] [NamedBackend β] [PropertyNode ν]
  [UserInterface υ] [Surroundings α (Happening β ν)] [Engine χ (Happening β ν)]

/-- A run reports each of its sources with the mode that its configuration has for it. -/
theorem mode_of_report {horizon : Nat} {setting after : Setting α β ν χ υ} {report : SyncReport}
    (ran : run horizon setting = some (.ok report, after))
    (distinct : (setting.sources.map Source.name).Nodup) {source : Source β ν}
    (member : source ∈ setting.sources) :
    ∃ told, report.sources.get? source.name = some told ∧
      told.mode = setting.synchronizer.config.modeFor source.name := by
  obtain ⟨index, found⟩ := List.getElem?_of_mem member
  obtain ⟨e, same, -⟩ | ⟨ending, session, exchanges, same, -⟩ := run_cases ran
  · cases same
  cases same
  obtain ⟨atEnd, sourceReport, -, -, -, mode, -, foundReport⟩ :=
    exchanges.source_ends distinct found (endingStatus ending).isSuccess
  rw [← finish_reports setting.synchronizer.config] at foundReport
  exact ⟨_, foundReport, (SessionItems.mode_endReported _ _ _).trans mode⟩

/-- The child is asked for a source as the run sees it from here exactly if the source has an entry
and none of the later ones of its name is enabled. -/
theorem requests_mirror_modes_iff (config : SyncConfig) (context name : String) :
    (SyncConfig.Mirrors (config.modeFor name) (config.requestsOf context name) ↔
      config.ListedOnce name) ∧
    ∀ {horizon : Nat} {setting after : Setting α β ν χ υ} {report : SyncReport},
      setting.synchronizer.config = config →
      run horizon setting = some (.ok report, after) →
      (setting.sources.map Source.name).Nodup →
      ∀ source ∈ setting.sources, source.name = name →
        ∃ told, report.sources.get? name = some told ∧ told.mode = config.modeFor name := by
  refine ⟨config.mirrors_iff context name, ?_⟩
  rintro horizon setting after report rfl ran distinct source member rfl
  exact mode_of_report ran distinct member

/-- The setting of one source of notes for a local session that takes the notes of this side and leaves
the tasks alone. -/
def localSetting :
    Setting (BareAgent StageHappening) ScriptedBackend MemoryNode (PlannedEngine StageHappening)
      Observer :=
  { oneSource [] { beginError := some (.protocol "refused") } with
    synchronizer := { config := {
      name := "work", url := "local://@phone"
      sources := [⟨"tasks", .disabled⟩, ⟨"notes", .oneWayFromLocal⟩, ⟨"notes", .disabled⟩] } } }

theorem requests_mirror_modes_of_localSetting :
    ∃ report after told, run 1 localSetting = some (.ok report, after) ∧
      report.sources.get? "notes" = some told ∧ told.mode = .oneWayFromLocal ∧
      SyncConfig.Mirrors told.mode
        (localSetting.synchronizer.config.requestsOf "phone" "notes") := by
  obtain ⟨report, after, ran⟩ : ∃ report after,
      run 1 localSetting = some (.ok report, after) := ⟨_, _, rfl⟩
  have distinct : (localSetting.sources.map Source.name).Nodup := by
    simp [localSetting, oneSource]
  have listed : localSetting.synchronizer.config.ListedOnce "notes" :=
    ⟨⟨"notes", .oneWayFromLocal⟩, [⟨"notes", .disabled⟩], by decide, by decide⟩
  obtain ⟨mirrors, modes⟩ :=
    requests_mirror_modes_iff (α := BareAgent StageHappening) (β := ScriptedBackend)
      (ν := MemoryNode) (χ := PlannedEngine StageHappening) (υ := Observer)
      localSetting.synchronizer.config "phone" "notes"
  obtain ⟨told, reported, mode⟩ := modes rfl ran distinct _ (List.mem_singleton.2 rfl) rfl
  exact ⟨report, after, told, ran, reported, mode, mode ▸ mirrors.2 listed⟩

end Synchronizer

/-- A source that is off by its first entry and on by a later one does not run here, but the child is
asked for it.  One without an entry runs here, and the child is not asked for it. -/
theorem unclear_entries_not_mirrored :
    let config : SyncConfig :=
      { name := "work", sources := [⟨"notes", .disabled⟩, ⟨"notes", .twoWay⟩] }
    (config.modeFor "notes" = .disabled ∧
      config.requestsOf "phone" "notes" = [⟨"notes", "two-way"⟩] ∧
      ¬ SyncConfig.Mirrors (config.modeFor "notes") (config.requestsOf "phone" "notes")) ∧
    config.modeFor "tasks" = .twoWay ∧ config.requestsOf "phone" "tasks" = [] ∧
      ¬ SyncConfig.Mirrors (config.modeFor "tasks") (config.requestsOf "phone" "tasks") := by
  refine ⟨⟨rfl, rfl, ?_⟩, rfl, rfl, ?_⟩
  · intro mirrors
    cases mirrors
  · rintro ⟨request, same, -⟩
    cases same

end DataSync
