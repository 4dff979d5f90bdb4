import DataSync.Proofs.Session.Isolation
import DataSync.Proofs.Session.Minutes
import DataSync.Proofs.Source.Standing

/-!
# What reports tell of sources

The report of a source stays good as long as the source began well and its engine was not answered
that the data store failed.  A source whose report is good has not failed itself, so that nothing but
the end of the session can still spoil it.
-/

namespace DataSync

open DataSync.Action

variable {β ν : Type} [Backend β]

/-- No call for an item of a source was answered with a failure of its data store. -/
def Spared (name : String) (minutes : List Minute) : Prop :=
  ∀ minute ∈ minutes, minute.call.source = name → minute.answer ≠ .error .datastoreFailure

theorem spared_concat {name : String} {minutes : List Minute} {minute : Minute} :
    Spared name (minutes ++ [minute]) ↔ Spared name minutes ∧
      (minute.call.source = name → minute.answer ≠ .error .datastoreFailure) := by
  simp only [Spared, List.mem_append, List.mem_singleton]
  constructor
  · intro spared
    exact ⟨fun earlier member => spared earlier (.inl member), spared minute (.inr rfl)⟩
  · rintro ⟨earlier, latest⟩ other (member | rfl)
    · exact earlier other member
    · exact latest

/-! ## One call -/

/-- A call spoils the report of no source but the one that it names, and of this one only if it is
answered with a failure of the data store of a source that takes part. -/
theorem StoreCall.report_perform (call : StoreCall) {items : SessionItems β ν} {name : String}
    {later : SourceReport} (found : (call.perform.stateAfter items).reports.get? name = some later) :
    ∃ report, items.reports.get? name = some report ∧ later.mode = report.mode ∧
      (later.status.isSuccess = true ↔ report.status.isSuccess = true ∧
        (report.mode.isEnabled = true → call.source = name →
          (call.perform.on items).1 ≠ .error .datastoreFailure)) := by
  unfold stateAfter at found
  rcases accessible : items.accessible call.source with status | report
  · rw [on_perform_of_inaccessible accessible] at found ⊢
    refine ⟨later, found, rfl, ?_⟩
    by_cases here : call.source = name
    · -- It is turned away because its source takes no part or has failed already.
      simp only [here, SessionItems.accessible, found] at accessible
      split at accessible
      · cases accessible
      · cases accessible
        cases status : later.status.isSuccess <;> simp_all
    · simp [here]
  rcases split : SessionItems.split? call.source items.sources with _ | ⟨before, source, after⟩
  · rw [on_perform_of_missing accessible split] at found ⊢
    exact ⟨later, found, rfl, by simp⟩
  rw [on_perform_of_found accessible split] at found ⊢
  dsimp only at found
  rw [Table.get?_insert] at found
  by_cases here : name = call.source
  · rw [if_pos here] at found
    cases found
    obtain ⟨mode, good⟩ := call.item.settle_report source report
    obtain ⟨reported, -, enabled⟩ := SessionItems.accessible_eq_ok.1 accessible
    refine ⟨report, here ▸ reported, mode, ?_⟩
    simp [good, enabled, here]
  · rw [if_neg here] at found
    exact ⟨later, found, rfl, by simp [Ne.symm here]⟩

namespace SessionItems

/-- A source that takes part, with a good report, has not failed. -/
def Sound (items : SessionItems β ν) : Prop :=
  ∀ source ∈ items.sources, ∀ report, items.reports.get? source.name = some report →
    report.mode.isEnabled = true → report.status.isSuccess = true → source.failure = none

theorem Sound.perform [NamedBackend β] [PropertyNode ν] {items : SessionItems β ν}
    (sound : items.Sound) (call : StoreCall) : (call.perform.stateAfter items).Sound := by
  unfold stateAfter
  rcases accessible : items.accessible call.source with status | report
  · rw [StoreCall.on_perform_of_inaccessible accessible]
    exact sound
  rcases split : split? call.source items.sources with _ | ⟨before, source, after⟩
  · rw [StoreCall.on_perform_of_missing accessible split]
    exact sound
  rw [StoreCall.on_perform_of_found accessible split]
  obtain ⟨reported, good, enabled⟩ := accessible_eq_ok.1 accessible
  -- The report was good, so no source of the name had failed.
  have soundHere : ∀ other ∈ before ++ source :: after, other.name = call.source →
      other.failure = none := by
    intro other member named
    rw [← sources_of_split? split] at member
    exact sound other member report (named ▸ reported) enabled good
  intro other member otherReport found otherEnabled otherGood
  dsimp only at member found
  rw [Table.get?_insert] at found
  by_cases here : other.name = call.source
  · rw [if_pos here] at found
    cases found
    obtain earlier | rfl | later : other ∈ before ∨ other = _ ∨ other ∈ after := by
      simpa using member
    · exact soundHere other (by simp [earlier]) here
    · exact ItemCall.failure_settle (soundHere source (by simp) (name_of_split? split)) otherGood
    · exact soundHere other (by simp [later]) here
  · rw [if_neg here] at found
    refine sound other ?_ otherReport found otherEnabled otherGood
    rw [sources_of_split? split]
    obtain earlier | rfl | later : other ∈ before ∨ other = _ ∨ other ∈ after := by
      simpa using member
    · simp [earlier]
    · exact absurd ((call.item.name_settle source report).trans (name_of_split? split)) here
    · simp [later]

theorem Sound.undisturbed [NamedBackend β] [PropertyNode ν] :
    Undisturbed (Sound (β := β) (ν := ν)) := by
  intro change items sound source member
  obtain ⟨index, found⟩ := List.mem_iff_getElem?.1 member
  rcases foundBefore : items.sources[index]? with _ | before
  · simp [disturb, List.getElem?_modify, foundBefore] at found
  have soundBefore := sound before (List.mem_of_getElem? foundBefore)
  by_cases changed : change.position = index
  · obtain rfl : change.apply before = source := by
      simpa [disturb, List.getElem?_modify, foundBefore, changed] using found
    have named : (change.apply before).name = before.name := Source.Fixed.name.apply change before
    rw [named]
    exact soundBefore
  · obtain rfl : before = source := by
      simpa [disturb, List.getElem?_modify, foundBefore, changed] using found
    exact soundBefore

end SessionItems

/-! ## Sessions -/

/-- A source of the name begins without error if it takes part. -/
def BeginsWell [PropertyNode ν] (config : SyncConfig) (sources : List (Source β ν))
    (name : String) : Prop :=
  ∀ source ∈ sources, source.name = name → (config.modeFor name).isEnabled = true →
    ∃ changes, ((Source.beginSync (config.modeFor name)).on source).1 = .ok changes

/-- The reports of a session tell which sources began well and were spared failures of their data
stores since then. -/
structure Reported [PropertyNode ν] (config : SyncConfig) (initial : List (Source β ν))
    (minutes : List Minute) (items : SessionItems β ν) : Prop where
  tells : ∀ name report, items.reports.get? name = some report →
    (∃ source ∈ initial, source.name = name) ∧ report.mode = config.modeFor name ∧
      (report.status.isSuccess = true ↔ BeginsWell config initial name ∧
        ((config.modeFor name).isEnabled = true → Spared name minutes))
  sound : items.Sound

variable [NamedBackend β] [PropertyNode ν]

theorem reported_invariant (config : SyncConfig) (initial : List (Source β ν)) :
    MinutesInvariant (Reported config initial) where
  call call minutes items reported := by
    refine ⟨fun name later found => ?_, reported.sound.perform call⟩
    obtain ⟨report, foundBefore, mode, good⟩ := call.report_perform found
    obtain ⟨named, modeBefore, goodBefore⟩ := reported.tells name report foundBefore
    refine ⟨named, mode.trans modeBefore, ?_⟩
    rw [good, goodBefore, modeBefore, spared_concat, and_assoc, imp_and]
  undisturbed minutes change items reported :=
    ⟨reported.tells, SessionItems.Sound.undisturbed change items reported.sound⟩

namespace SessionItems

omit [NamedBackend β] in
theorem beginSource_report (config : SyncConfig) (source : Source β ν) :
    (beginSource config source).2.1.mode = config.modeFor source.name ∧
      ((beginSource config source).2.1.status.isSuccess = true ↔
        ((config.modeFor source.name).isEnabled = true →
          ∃ changes, ((Source.beginSync (config.modeFor source.name)).on source).1 = .ok changes)) ∧
      ((config.modeFor source.name).isEnabled = true →
        (beginSource config source).2.1.status.isSuccess = true →
          (beginSource config source).1.failure = none) := by
  cases enabled : (config.modeFor source.name).isEnabled with
  | false => simp [beginSource, enabled, SyncStatus.isSuccess]
  | true =>
    rcases begins : (Source.beginSync (config.modeFor source.name)).on source with
      ⟨e | changes, begun⟩
    · simp [beginSource, enabled, begins, SourceReport.mode_failStore,
        SourceReport.isSuccess_failStore]
    · have usable : ((Source.beginSync (config.modeFor source.name)).stateAfter source).Usable :=
        (Source.usable_beginSync_iff _ source).2 (.inl ⟨enabled, changes, by rw [begins]⟩)
      rw [stateAfter, begins] at usable
      have sound : begun.failure = none := usable.2
      simp [beginSource, enabled, begins, sound, SyncStatus.isSuccess]

omit [NamedBackend β] in
theorem sources_beginAll (config : SyncConfig) (sources : List (Source β ν))
    (reports : Table SourceReport) (offers : List SourceOffer) :
    (beginAll config reports offers sources).1.sources =
      sources.map fun source => (beginSource config source).1 := by
  induction sources generalizing reports offers with
  | nil => rfl
  | cons source rest inductionHypothesis =>
    rw [beginAll, List.map_cons]
    exact congrArg (_ :: ·) (inductionHypothesis _ _)

end SessionItems

theorem reported_begun (config : SyncConfig) {sources : List (Source β ν)}
    (distinct : (sources.map Source.name).Nodup) :
    Reported config sources [] (SessionItems.begun config sources) := by
  refine ⟨fun name report found => ?_, fun source member report found enabled good => ?_⟩
  · -- Under each name stands the report of the one source that has it.
    obtain ⟨source, member, rfl⟩ : ∃ source ∈ sources, source.name = name := by
      by_contra absent
      rw [SessionItems.begun, SessionItems.report_beginAll config (by simpa using absent)] at found
      cases found
    rw [SessionItems.begun, SessionItems.report_beginAll_of_mem config distinct member] at found
    cases found
    obtain ⟨mode, good, -⟩ := SessionItems.beginSource_report config source
    refine ⟨⟨source, member, rfl⟩, mode, ?_⟩
    rw [good]
    constructor
    · intro begins
      refine ⟨fun other otherMember same => ?_, by simp [Spared]⟩
      obtain rfl := List.inj_on_of_nodup_map distinct otherMember member same
      exact begins
    · rintro ⟨begins, -⟩
      exact begins source member rfl
  · rw [SessionItems.begun, SessionItems.sources_beginAll] at member
    obtain ⟨initial, initialMember, rfl⟩ := List.mem_map.1 member
    rw [SessionItems.name_beginSource, SessionItems.begun,
      SessionItems.report_beginAll_of_mem config distinct initialMember] at found
    cases found
    obtain ⟨mode, -, sound⟩ := SessionItems.beginSource_report config initial
    rw [mode] at enabled
    exact sound enabled good

end DataSync
