import DataSync.Proofs.Source.Calls

/-!
# The end of a session

What ending a session does to the revisions that a source keeps.  They are put into its node exactly
if the session was a success and the source is usable; closing the backend happens afterwards and does
not touch them, whatever comes of it.
-/

namespace DataSync

namespace Source

open DataSync.Action

variable {β ν : Type} [PropertyNode ν]

theorem on_commit_untracked {source : Source β ν} (untracked : source.tracking = none) :
    commit.on source = (.ok false, source) := by
  simp [commit, untracked]

theorem on_commit {source : Source β ν} {tracking : Tracking ν}
    (tracked : source.tracking = some tracking) :
    commit.on source =
      match (RevisionStore.save (tracking.commitMap source.current)).on tracking.node with
      | (.ok (), node) => (.ok true, { source with
          tracking := some { tracking with node, previous := tracking.commitMap source.current } })
      | (.error e, node) =>
        (.error e, { source with tracking := some { tracking with node } }) := by
  simp only [commit, on_of, tracked]
  cases (RevisionStore.save (tracking.commitMap source.current)).on tracking.node with
  | mk answer node => cases answer <;> rfl

theorem commit_eq_ok_true {source : Source β ν} :
    (commit.on source).1 = .ok true ↔ ∃ tracking, source.tracking = some tracking ∧
      ((RevisionStore.save (tracking.commitMap source.current)).on tracking.node).1 = .ok () := by
  cases tracked : source.tracking with
  | none => simp [on_commit_untracked tracked]
  | some tracking =>
    rw [on_commit tracked]
    cases saved : (RevisionStore.save (tracking.commitMap source.current)).on tracking.node with
    | mk answer node => cases answer <;> simp [saved]

variable [Backend β]

omit [PropertyNode ν] in
theorem tracking_closeBackend (source : Source β ν) :
    (closeBackend.stateAfter source).tracking = source.tracking := by
  simp only [closeBackend, stateAfter, on_of]
  split <;> rfl

omit [PropertyNode ν] in
theorem isOpen_closeBackend (source : Source β ν) :
    (closeBackend.stateAfter source).isOpen = false := by
  simp only [closeBackend, stateAfter, on_of]
  split
  · rfl
  · simp_all

/-- A session that did not go well, or a source that cannot be used, is only closed. -/
theorem on_endSync_without_commit {success : Bool} {source : Source β ν}
    (spoiled : ¬ (success = true ∧ source.Usable)) :
    (endSync success).on source =
      ((closeBackend.on source).1.map fun _ => false, (closeBackend.on source).2) := by
  have keeping : (success && source.failure.isNone && source.isOpen) = false := by
    cases success <;> cases failure : source.failure <;> cases isOpen : source.isOpen <;>
      simp_all [Usable]
  simp only [endSync, on_of, keeping, Bool.false_eq_true, if_false]
  cases closeBackend.on source with
  | mk answer after => cases answer <;> rfl

/-- The backend is closed whatever came of the commit, but an error of the commit comes first. -/
theorem on_endSync {source : Source β ν} (usable : source.Usable) :
    (endSync true).on source =
      match (commit.on source).1, (closeBackend.on (commit.stateAfter source)).1 with
      | .error e, _ => (.error e, (closeBackend.stateAfter (commit.stateAfter source)).note e)
      | .ok _, .error e => (.error e, closeBackend.stateAfter (commit.stateAfter source))
      | .ok committed, .ok () =>
        (.ok committed, closeBackend.stateAfter (commit.stateAfter source)) := by
  obtain ⟨isOpen, works⟩ := usable
  cases committed : (commit.on source).1 with
  | error e => simp [endSync, isOpen, works, stateAfter, committed]
  | ok answer =>
    cases closed : (closeBackend.on (commit.on source).2).1 with
    | error e => simp [endSync, isOpen, works, stateAfter, committed, closed]
    | ok _ => simp [endSync, isOpen, works, stateAfter, committed, closed]

theorem stateAfter_endSync {source : Source β ν} (usable : source.Usable) :
    (endSync true).stateAfter source = closeBackend.stateAfter (commit.stateAfter source) ∨
      ∃ e, (endSync true).stateAfter source =
        (closeBackend.stateAfter (commit.stateAfter source)).note e := by
  rw [stateAfter, on_endSync usable]
  cases (commit.on source).1 with
  | error e => exact .inr ⟨e, rfl⟩
  | ok committed =>
    cases (closeBackend.on (commit.stateAfter source)).1 with
    | error e => exact .inl rfl
    | ok _ => exact .inl rfl

theorem tracking_endSync {source : Source β ν} (usable : source.Usable) :
    ((endSync true).stateAfter source).tracking = (commit.stateAfter source).tracking := by
  obtain same | ⟨e, same⟩ := stateAfter_endSync usable
  · rw [same, tracking_closeBackend]
  · rw [same, note_tracking, tracking_closeBackend]

theorem tracking_endSync_without_commit {success : Bool} {source : Source β ν}
    (spoiled : ¬ (success = true ∧ source.Usable)) :
    ((endSync success).stateAfter source).tracking = source.tracking := by
  rw [stateAfter, on_endSync_without_commit spoiled]
  exact tracking_closeBackend source

/-- A source is closed after the end of a session, however it ended. -/
theorem isOpen_endSync (success : Bool) (source : Source β ν) :
    ((endSync success).stateAfter source).isOpen = false := by
  by_cases committing : success = true ∧ source.Usable
  · obtain ⟨rfl, usable⟩ := committing
    obtain same | ⟨e, same⟩ := stateAfter_endSync usable
    · rw [same, isOpen_closeBackend]
    · rw [same, note_isOpen, isOpen_closeBackend]
  · rw [stateAfter, on_endSync_without_commit committing]
    exact isOpen_closeBackend source

theorem endSync_eq_ok_true {success : Bool} {source : Source β ν} :
    ((endSync success).on source).1 = .ok true ↔ success = true ∧ source.Usable ∧
      (commit.on source).1 = .ok true ∧
      (closeBackend.on (commit.stateAfter source)).1 = .ok () := by
  by_cases committing : success = true ∧ source.Usable
  · obtain ⟨rfl, usable⟩ := committing
    rw [on_endSync usable]
    cases (commit.on source).1 with
    | error e => simp
    | ok committed => cases (closeBackend.on (commit.stateAfter source)).1 <;> simp [usable]
  · -- Without a commit no answer says that there was one.
    rw [on_endSync_without_commit committing]
    constructor
    · cases (closeBackend.on source).1 <;> simp [Except.map]
    · rintro ⟨went, usable, _⟩
      exact absurd ⟨went, usable⟩ committing

/-! ## After a commit -/

variable {source ended : Source β ν} {tracking : Tracking ν}

theorem usable_of_committed (committed : (endSync true).on source = (.ok true, ended)) :
    source.Usable := by
  have answer : ((endSync true).on source).1 = .ok true := by rw [committed]
  exact (endSync_eq_ok_true.1 answer).2.1

theorem tracking_of_committed (tracked : source.tracking = some tracking)
    (committed : (endSync true).on source = (.ok true, ended)) :
    ∃ node, (RevisionStore.save (tracking.commitMap source.current)).on tracking.node =
        (.ok (), node) ∧
      ended.tracking = some { tracking with
        node, previous := tracking.commitMap source.current } := by
  have answer : ((endSync true).on source).1 = .ok true := by rw [committed]
  obtain ⟨-, usable, commits, -⟩ := endSync_eq_ok_true.1 answer
  obtain ⟨other, trackedOther, saved⟩ := commit_eq_ok_true.1 commits
  cases tracked.symm.trans trackedOther
  -- Closing the backend comes after the commit and leaves the node alone.
  have left := tracking_endSync usable
  have saves : (RevisionStore.save (tracking.commitMap source.current)).on tracking.node =
    (.ok (), _) := Prod.ext saved rfl
  rw [stateAfter, stateAfter, committed, on_commit tracked, saves] at left
  exact ⟨_, saves, left⟩

end Source

end DataSync
