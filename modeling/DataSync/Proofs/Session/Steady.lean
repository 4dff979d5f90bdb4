import DataSync.Proofs.Session.Access
import DataSync.Proofs.Session.Invariant
import DataSync.Proofs.Source.NamedBackend
import DataSync.Proofs.Source.Persisted

/-!
# What stays while a session runs

Until a session ends its sources nothing is committed: what their nodes hold stays as it was, the
sources keep their names and their reports say that nothing was committed.
-/

namespace DataSync

open DataSync.Action

variable {α β ν κ κ' : Type} [Backend β] [PropertyNode ν]

/-- A feature of sources that neither a session nor its surroundings change. -/
structure Source.Fixed (feature : Source β ν → κ) : Prop where
  stable : ∀ value, Source.Stable fun source => feature source = value
  apply : ∀ (change : Disturbance β ν) source, feature (change.apply source) = feature source

namespace Source

namespace Fixed

theorem persisted : Fixed (persisted (β := β) (ν := ν)) where
  stable value := {
    session := fun _ _ _ _ same => same
    tracking := fun _ _ tracked same => by
      simpa [Source.persisted, tracked] using same
    call := fun _ _ same => same }
  apply change source := by
    cases tracked : source.tracking <;>
      simp [Source.persisted, Disturbance.apply, tracked, change.keepsProperties]

theorem name [NamedBackend β] : Fixed (name (β := β) (ν := ν)) where
  stable value := {
    session := fun _ _ _ _ same => same
    tracking := fun _ _ _ same => same
    call := fun isCall source same => (NamedBackend.name_call isCall source.backend).trans same }
  apply change source := by
    simp only [Source.name, Disturbance.apply, Disturbance.changed]
    split
    · assumption
    · rfl

theorem pair {first : Source β ν → κ} {second : Source β ν → κ'} (fixed : Fixed first)
    (fixed' : Fixed second) : Fixed fun source => (first source, second source) where
  stable value := {
    session := fun mode current isOpen failure same => by
      have ⟨one, two⟩ := Prod.mk.inj same
      exact Prod.ext ((fixed.stable _).session mode current isOpen failure one)
        ((fixed'.stable _).session mode current isOpen failure two)
    tracking := fun previous failed tracked same => by
      have ⟨one, two⟩ := Prod.mk.inj same
      exact Prod.ext ((fixed.stable _).tracking previous failed tracked one)
        ((fixed'.stable _).tracking previous failed tracked two)
    call := fun isCall source same => by
      have ⟨one, two⟩ := Prod.mk.inj same
      exact Prod.ext ((fixed.stable _).call isCall one) ((fixed'.stable _).call isCall two) }
  apply change source := by rw [fixed.apply, fixed'.apply]

end Fixed

end Source

namespace SessionItems

variable {γ : Type}

/-! ## Reports -/

/-- No report says that anything was committed. -/
def Uncommitted (reports : Table SourceReport) : Prop :=
  ∀ name report, reports.get? name = some report → report.committed = false

theorem Uncommitted.empty : Uncommitted .empty :=
  fun _ _ found => by cases found

theorem Uncommitted.insert {reports : Table SourceReport} (uncommitted : Uncommitted reports)
    (name : String) {report : SourceReport} (unreported : report.committed = false) :
    Uncommitted (reports.insert name report) := by
  intro other otherReport found
  rw [Table.get?_insert] at found
  split at found
  · cases found
    exact unreported
  · exact uncommitted other otherReport found

theorem committed_fail (status : SyncStatus) (error : String) (report : SourceReport) :
    (report.fail status error).committed = report.committed := by
  unfold SourceReport.fail
  split <;> rfl

/-! ## Accesses -/

/-- The sources have their features, there are reports for these names, and none says that anything
was committed. -/
structure Steady (feature : Source β ν → κ) (features : List κ) (names : List String)
    (items : SessionItems β ν) : Prop where
  features_eq : items.sources.map feature = features
  reported : ∀ name ∈ names, items.reports.contains name = true
  uncommitted : Uncommitted items.reports

namespace Steady

variable {feature : Source β ν → κ} {features : List κ} {names : List String}

omit [PropertyNode ν] in
/-- An access is as steady as what it does to one source and its report. -/
theorem access (name : String) {operation : Action (Source β ν) SourceError γ}
    {count : γ → SourceReport → SourceReport}
    {failing : SourceError → Source β ν → SourceReport → Source β ν × SourceReport}
    (keeps : ∀ value, operation.Keeps fun source => feature source = value)
    (counts : ∀ result report, (count result report).committed = report.committed)
    (fails : ∀ e source report, feature (failing e source report).1 = feature source ∧
      (failing e source report).2.committed = report.committed) :
    (SessionItems.access name operation count failing).Keeps (Steady feature features names) := by
  intro items steady
  obtain unchanged |
    ⟨report, before, source, after, final, finalReport, reported, sources, changed, outcome⟩ :=
    access_cases name operation count failing items
  · rw [unchanged]
    exact steady
  have unreported := steady.uncommitted name report reported
  have same : feature final = feature source ∧ finalReport.committed = false := by
    have kept := keeps (feature source) source rfl
    obtain ⟨result, succeeded, rfl⟩ | ⟨e, failed, refused, noted⟩ := outcome
    · rw [stateAfter, succeeded] at kept
      exact ⟨kept, (counts result report).trans unreported⟩
    · rw [stateAfter, refused] at kept
      have noting := fails e failed report
      rw [noted] at noting
      exact ⟨noting.1.trans kept, noting.2.trans unreported⟩
  rw [changed]
  refine ⟨?_, fun other member => ?_, steady.uncommitted.insert name same.2⟩
  · rw [← steady.features_eq, sources]
    simp [same.1]
  · have before := steady.reported other member
    by_cases equal : other = name <;> simp_all [Table.contains]

end Steady

section Errors

variable {feature : Source β ν → κ} (fixed : Source.Fixed feature)

include fixed

theorem steady_noteError (luid : Option Luid) (e : SourceError) (source : Source β ν)
    (report : SourceReport) :
    feature (noteError luid e source report).1 = feature source ∧
      (noteError luid e source report).2.committed = report.committed := by
  unfold noteError
  dsimp only
  split
  · exact ⟨rfl, committed_fail _ _ _⟩
  · cases luid with
    | none => exact ⟨rfl, rfl⟩
    | some luid => exact ⟨(fixed.stable (feature source)).recordFailure luid rfl, rfl⟩

theorem steady_noteUnremoved (luid : Luid) (e : SourceError) (source : Source β ν)
    (report : SourceReport) :
    feature (noteUnremoved luid e source report).1 = feature source ∧
      (noteUnremoved luid e source report).2.committed = report.committed := by
  cases e with
  | notFound _ => exact ⟨rfl, rfl⟩
  | _ => exact steady_noteError fixed (some luid) _ source report

theorem steady_invariant (features : List κ) (names : List String) :
    Invariant (Steady feature features names) where
  readItem name luid := Steady.access name
    (fun value => (fixed.stable value).keeps_readItem luid) (fun _ _ => rfl)
    (steady_noteError fixed (some luid))
  insertItem name luid content := Steady.access name
    (fun value => (fixed.stable value).keeps_insertItem luid content)
    (fun inserted report => rfl) (steady_noteError fixed luid)
  deleteItem name luid := Steady.access name
    (fun value => (fixed.stable value).keeps_deleteItem luid) (fun _ _ => rfl)
    (steady_noteUnremoved fixed luid)
  disturb change items steady := by
    refine ⟨?_, steady.reported, steady.uncommitted⟩
    rw [← steady.features_eq]
    -- Only the source at the position of the change is another one, and that in no feature.
    apply List.ext_getElem?
    intro index
    simp only [SessionItems.disturb, List.getElem?_map, List.getElem?_modify]
    cases items.sources[index]? with
    | none => rfl
    | some source =>
      by_cases changed : change.position = index
      · simp [changed, fixed.apply]
      · simp [changed]

end Errors

/-! ## The beginning of all sources -/

section Beginning

variable {feature : Source β ν → κ} (fixed : Source.Fixed feature) (config : SyncConfig)

theorem committed_beginSource (source : Source β ν) :
    (beginSource config source).2.1.committed = false := by
  unfold beginSource
  dsimp only
  split
  · split
    · rfl
    · exact committed_fail _ _ _
  · rfl

include fixed

theorem feature_beginSource (source : Source β ν) :
    feature (beginSource config source).1 = feature source := by
  have kept := (fixed.stable (feature source)).keeps_beginSync (config.modeFor source.name) source rfl
  unfold beginSource
  dsimp only
  split
  · cases begun : (Source.beginSync (config.modeFor source.name)).on source with
    | mk answer after =>
      rw [stateAfter, begun] at kept
      cases answer with
      | ok changes => exact kept
      | error e => exact kept
  · rfl

/-- The names are those of the sources that began, because under them the reports are entered. -/
theorem steady_beginAll (sources : List (Source β ν)) (reports : Table SourceReport)
    (offers : List SourceOffer) (uncommitted : Uncommitted reports) :
    (beginAll config reports offers sources).1.Steady feature (sources.map feature)
      (reports.keys ++ (beginAll config reports offers sources).1.sources.map Source.name) := by
  induction sources generalizing reports offers with
  | nil =>
    refine ⟨rfl, fun name member => ?_, uncommitted⟩
    simpa [beginAll, Table.contains_iff_mem_keys] using member
  | cons source rest inductionHypothesis =>
    have kept := feature_beginSource fixed config source
    have unreported := committed_beginSource config source
    rw [beginAll]
    cases begun : beginSource config source with
    | mk begunSource reportAndOffer =>
      cases reportAndOffer with
      | mk report offer =>
        simp only [begun] at kept unreported ⊢
        -- The induction is on the other sources, to which the report of this one was added.
        have steady := inductionHypothesis (reports.insert begunSource.name report)
          (offers ++ offer.toList) (uncommitted.insert begunSource.name unreported)
        refine ⟨?_, fun name member => steady.reported name ?_, steady.uncommitted⟩
        · simpa [kept] using steady.features_eq
        · simp only [List.mem_append, ← Table.contains_iff_mem_keys, Table.contains,
            Table.get?_insert, List.map_cons, List.mem_cons] at member ⊢
          by_cases equal : name = begunSource.name
          · simp [equal]
          · simpa [equal] using member

end Beginning

end SessionItems

end DataSync
