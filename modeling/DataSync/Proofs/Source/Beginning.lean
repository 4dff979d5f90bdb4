import DataSync.Proofs.Source.Calls

/-!
# The beginning of a session

What beginning a session does to a source, step by step: the backend is opened, the committed
revisions are loaded, the items are listed and perhaps wiped.  Each step may fail with any error; then
the later ones are not taken and what the earlier ones did stays.
-/

namespace DataSync

namespace Source

open DataSync.Action

variable {β ν : Type}

/-- The source with other revisions of the last committed session. -/
def withPrevious (previous : RevisionMap) (source : Source β ν) : Source β ν :=
  { source with tracking := source.tracking.map fun tracking => { tracking with previous } }

theorem exists_withPrevious (source : Source β ν) :
    ∃ previous, source.withPrevious previous = source := by
  obtain ⟨backend, tracking, mode, current, isOpen, failure⟩ := source
  cases tracking with
  | none => exact ⟨.empty, rfl⟩
  | some tracking => exact ⟨tracking.previous, rfl⟩

theorem loadPrevious_frame [PropertyNode ν] (source : Source β ν) :
    ∃ previous, loadPrevious.stateAfter source = source.withPrevious previous := by
  obtain ⟨unchanged, same⟩ := source.exists_withPrevious
  simp only [stateAfter, loadPrevious, on_of]
  split
  · exact ⟨unchanged, same.symm⟩
  · rename_i tracking tracked
    split
    · exact ⟨unchanged, same.symm⟩
    · rename_i previous _
      exact ⟨previous, by simp [withPrevious, tracked]⟩

variable [Backend β] [PropertyNode ν]

theorem on_detectChanges (source : Source β ν) :
    detectChanges.on source = match Backend.openItems.on source.backend with
      | (.error e, backend) => (.error e, { source with backend })
      | (.ok (), backend) =>
        match loadPrevious.on { source with backend, isOpen := true } with
        | (.error e, source) => (.error e, source)
        | (.ok (), source) => match Backend.list.on source.backend with
          | (.error e, backend) => (.error e, { source with backend })
          | (.ok revisions, backend) =>
            if source.mode.wipesItems then
              match (wipe revisions.keys).on backend with
              | (.error e, backend) => (.error e, { source with backend })
              | (.ok (), backend) => (.ok .empty, { source with backend })
            else
              (.ok { source with backend, current := revisions }.changes,
                { source with backend, current := revisions }) := by
  unfold detectChanges
  -- An error of a step is the answer; otherwise the next step goes on from what the step left.
  rcases opened : Backend.openItems.on source.backend with ⟨_ | ⟨⟩, backend⟩
  · simp only [on_bind, on_onBackend, opened]
  rcases loaded : loadPrevious.on { source with backend, isOpen := true } with ⟨_ | ⟨⟩, source⟩
  · simp only [on_bind, on_onBackend, opened, on_modify, loaded]
  rcases listed : Backend.list.on source.backend with ⟨_ | revisions, backend⟩
  · simp only [on_bind, on_onBackend, opened, on_modify, loaded, listed]
  simp only [on_bind, on_onBackend, opened, on_modify, loaded, listed, on_get]
  by_cases wipes : source.mode.wipesItems
  · simp only [wipes, if_true, on_bind, on_onBackend]
    cases (wipe revisions.keys).on backend with
    | mk answer wiped => cases answer <;> rfl
  · simp only [wipes, Bool.false_eq_true, if_false, on_bind, on_modify, on_get, on_pure]

/-- A source whose beginning failed knows no more revisions than before; one that began is open. -/
theorem detectChanges_cases (source : Source β ν) :
    (∃ e backend isOpen previous, detectChanges.on source =
      (.error e, { source with backend, isOpen }.withPrevious previous)) ∨
    (∃ changes backend current previous, detectChanges.on source =
      (.ok changes, { source with backend, isOpen := true, current }.withPrevious previous)) := by
  rw [on_detectChanges]
  rcases Backend.openItems.on source.backend with ⟨_ | ⟨⟩, backend⟩
  · -- Nothing was loaded yet, so that the previous revisions are still the ones from before.
    obtain ⟨previous, same⟩ := exists_withPrevious { source with backend }
    exact .inl ⟨_, backend, source.isOpen, previous, congrArg (Prod.mk _) same.symm⟩
  dsimp only
  obtain ⟨previous, frame⟩ := loadPrevious_frame { source with backend, isOpen := true }
  rcases loaded : loadPrevious.on { source with backend, isOpen := true } with ⟨_ | ⟨⟩, after⟩
  all_goals
    simp only [stateAfter, loaded] at frame
    subst frame
  · exact .inl ⟨_, backend, true, previous, rfl⟩
  dsimp only
  rcases Backend.list.on _ with ⟨_ | revisions, listed⟩
  · exact .inl ⟨_, listed, true, previous, rfl⟩
  dsimp only
  split
  · cases (wipe revisions.keys).on listed with
    | mk answer wiped =>
      cases answer with
      | error e => exact .inl ⟨e, wiped, true, previous, rfl⟩
      | ok _ => exact .inr ⟨_, wiped, source.current, previous, rfl⟩
  · exact .inr ⟨_, listed, revisions, previous, rfl⟩

theorem detectChanges_ok {changes : ChangeSet} {source after : Source β ν}
    (detected : detectChanges.on source = (.ok changes, after)) :
    ∃ opened loaded revisions listed,
      Backend.openItems.on source.backend = (.ok (), opened) ∧
      loadPrevious.on { source with backend := opened, isOpen := true } = (.ok (), loaded) ∧
      Backend.list.on loaded.backend = (.ok revisions, listed) ∧
      if loaded.mode.wipesItems then ∃ wiped,
        (wipe revisions.keys).on listed = (.ok (), wiped) ∧ after = { loaded with backend := wiped }
      else after = { loaded with backend := listed, current := revisions } := by
  simp only [detectChanges, on_bind_eq_ok, on_onBackend, on_modify, on_get, Prod.mk.injEq] at detected
  obtain ⟨⟨⟩, _, ⟨opening, rfl⟩, ⟨⟩, _, ⟨_, rfl⟩, ⟨⟩, loaded, loading, revisions, _,
    ⟨listing, rfl⟩, _, _, ⟨⟨⟩, rfl⟩, rest⟩ := detected
  refine ⟨_, loaded, revisions, _, Prod.ext opening rfl, loading, Prod.ext listing rfl, ?_⟩
  by_cases wipes : loaded.mode.wipesItems
  · simp only [wipes, if_true, on_bind_eq_ok, on_onBackend, Prod.mk.injEq] at rest ⊢
    obtain ⟨⟨⟩, _, ⟨wiping, rfl⟩, result⟩ := rest
    cases result
    exact ⟨_, Prod.ext wiping rfl, rfl⟩
  · simp only [wipes, Bool.false_eq_true, if_false, on_bind_eq_ok, on_modify, on_get] at rest ⊢
    obtain ⟨⟨⟩, _, ⟨⟩, _, _, ⟨⟩, result⟩ := rest
    cases result
    rfl

theorem on_beginSync {mode : SyncMode} (enabled : mode.isEnabled = true) (source : Source β ν) :
    (beginSync mode).on source = (noting detectChanges).on (source.cleared mode) := by
  simp only [beginSync, on_bind, on_modify, enabled, if_true]

/-- A disabled source is not touched; one that is open stays so. -/
theorem on_beginSync_disabled {mode : SyncMode} (disabled : mode.isEnabled = false)
    (source : Source β ν) :
    (beginSync mode).on source = (.ok .empty, source.cleared mode) := by
  simp only [beginSync, on_bind, on_modify, disabled, Bool.false_eq_true, if_false, on_pure]

/-! ## What was loaded -/

variable {source : Source β ν} {tracking : Tracking ν} {mode : SyncMode}

omit [Backend β] in
/-- Loading is the last step of a beginning that touches what is known about earlier sessions. -/
theorem on_loadPrevious_cleared (tracked : source.tracking = some tracking) (mode : SyncMode)
    (backend : β) :
    loadPrevious.on { source.cleared mode with backend, isOpen := true } =
      match RevisionStore.load tracking.node with
      | .error e => (.error e, { source.cleared mode with backend, isOpen := true })
      | .ok previous => (.ok (),
          { backend, tracking := some { node := tracking.node, previous }, mode, isOpen := true }) := by
  cases loads : RevisionStore.load tracking.node with
  | error e => simp only [loadPrevious, on_of, cleared, tracked, Option.map_some, loads]
  | ok previous => simp only [loadPrevious, on_of, cleared, tracked, Option.map_some, loads]

omit [Backend β] in
theorem isFatal_of_load {node : ν} {e : SourceError} (refused : RevisionStore.load node = .error e) :
    e.isFatal = true := by
  rw [RevisionStore.load] at refused
  cases read : PropertyNode.read node with
  | ok properties =>
    rw [read] at refused
    cases refused
  | error cause =>
    rw [read] at refused
    cases refused
    rfl

/-- A session whose backend was opened is usable only if the committed revisions were loaded. -/
theorem loaded_of_beginSync (enabled : mode.isEnabled = true)
    (tracked : source.tracking = some tracking)
    (opens : (Backend.openItems.on source.backend).1 = .ok ())
    (usable : ((beginSync mode).stateAfter source).Usable) :
    ∃ previous, RevisionStore.load tracking.node = .ok previous ∧
      ((beginSync mode).stateAfter source).tracking = some { node := tracking.node, previous } := by
  obtain ⟨opened, opening⟩ : ∃ opened, Backend.openItems.on (source.cleared mode).backend =
    (.ok (), opened) := ⟨_, Prod.ext opens rfl⟩
  simp only [stateAfter, on_beginSync enabled, on_noting, on_detectChanges, opening,
    on_loadPrevious_cleared tracked mode opened] at usable ⊢
  cases loads : RevisionStore.load tracking.node with
  | error e =>
    simp only [loads] at usable
    have works := (note_failure_eq_none e _).1 usable.2
    simp [isFatal_of_load loads] at works
  | ok previous =>
    -- Neither a listing nor a wipe touches what was loaded.
    refine ⟨previous, rfl, ?_⟩
    dsimp only
    rcases Backend.list.on opened with ⟨e | revisions, listed⟩
    · exact note_tracking e _
    by_cases wipes : mode.wipesItems
    · simp only [wipes, if_true]
      rcases (wipe revisions.keys).on listed with ⟨e | ⟨⟩, wiped⟩
      · exact note_tracking e _
      · rfl
    · simp only [wipes, Bool.false_eq_true, if_false]

/-- However a session begins, no item has failed yet. -/
theorem tracking_beginSync (tracked : source.tracking = some tracking) (mode : SyncMode) :
    ∃ previous,
      ((beginSync mode).stateAfter source).tracking = some { node := tracking.node, previous } := by
  cases enabled : mode.isEnabled with
  | false =>
    rw [stateAfter, on_beginSync_disabled enabled]
    exact ⟨tracking.previous, by simp [cleared, tracked]⟩
  | true =>
    rw [stateAfter, on_beginSync enabled, on_noting]
    obtain ⟨e, backend, isOpen, previous, failed⟩ | ⟨changes, backend, current, previous, succeeded⟩ :=
      detectChanges_cases (source.cleared mode)
    · rw [failed]
      exact ⟨previous, by simp [withPrevious, cleared, tracked]⟩
    · rw [succeeded]
      exact ⟨previous, by simp [withPrevious, cleared, tracked]⟩

theorem on_beginSync_of_listed {previous listing : RevisionMap} {opened listed : β}
    (tracked : source.tracking = some tracking)
    (loads : RevisionStore.load tracking.node = .ok previous)
    (enabled : mode.isEnabled = true) (partly : mode.sendsAllItems = false)
    (keeps : mode.wipesItems = false)
    (opens : Backend.openItems.on source.backend = (.ok (), opened))
    (lists : Backend.list.on opened = (.ok listing, listed)) :
    (beginSync mode).on source = (.ok (.between listing previous),
      { backend := listed, tracking := some { node := tracking.node, previous }, mode
        current := listing, isOpen := true }) := by
  have opening : Backend.openItems.on (source.cleared mode).backend = (.ok (), opened) := opens
  simp only [on_beginSync enabled, on_noting, on_detectChanges, opening,
    on_loadPrevious_cleared tracked mode opened, loads, lists, keeps, changes, partly,
    Bool.false_eq_true, if_false]

end Source

end DataSync
