import DataSync.Proofs.Source.Ending
import DataSync.Proofs.Storage.ReopenableNode

/-!
# Persisted revisions

What the node of a source holds after the end of a session, by the answer of the source.  It holds
the committed revisions if the source says so.  If the source says anything else it holds what it held
before, unless the commit was lost: the revisions were put into the node, and then either the node
could not store them or the backend could not be closed.

A later owner opens the node again.  It finds the committed revisions, too, also those of a commit that
the backend lost, and otherwise what it would have found before the end of the session.
-/

namespace DataSync

namespace Source

open DataSync.Action

variable {β ν : Type} [PropertyNode ν]

/-- What the node of a source holds. -/
def persisted (source : Source β ν) : Option (Except StorageError Properties) :=
  source.tracking.map fun tracking => PropertyNode.read tracking.node

theorem load_of_persisted {source : Source β ν} {revisions : RevisionMap}
    (holds : source.persisted = some (.ok revisions)) :
    ∃ tracking, source.tracking = some tracking ∧
      RevisionStore.load tracking.node = .ok revisions := by
  obtain ⟨tracking, tracked, content⟩ := Option.map_eq_some_iff.1 holds
  exact ⟨tracking, tracked, by rw [RevisionStore.load, content]; rfl⟩

theorem persisted_commit [LawfulNode ν] {source : Source β ν} {tracking : Tracking ν}
    (tracked : source.tracking = some tracking) :
    (commit.stateAfter source).persisted =
      some (match ((PropertyNode.replaceAll (tracking.commitMap source.current)).on
          tracking.node).1 with
        | .ok () => .ok (tracking.commitMap source.current)
        | .error _ => PropertyNode.read tracking.node) := by
  have content := RevisionStore.read_save (tracking.commitMap source.current) tracking.node
  rw [stateAfter] at content ⊢
  rw [on_commit tracked]
  cases saved : (RevisionStore.save (tracking.commitMap source.current)).on tracking.node with
  | mk answer node =>
    rw [saved] at content
    cases answer with
    | ok _ => exact congrArg some content
    | error e => exact congrArg some content

variable [Backend β]

/-- The revisions are put into the node of the source, but the session cannot be ended properly. -/
structure LosesCommit (source : Source β ν) (tracking : Tracking ν) : Prop where
  usable : source.Usable
  tracked : source.tracking = some tracking
  replaced : ((PropertyNode.replaceAll (tracking.commitMap source.current)).on
    tracking.node).1 = .ok ()
  spoiled : (∃ e, ((RevisionStore.save (tracking.commitMap source.current)).on
      tracking.node).1 = .error e) ∨
    ∃ e, (closeBackend.on (commit.stateAfter source)).1 = .error e

variable {source : Source β ν} {success : Bool}

theorem persisted_endSync (usable : source.Usable) :
    ((endSync true).stateAfter source).persisted = (commit.stateAfter source).persisted := by
  rw [persisted, persisted, tracking_endSync usable]

theorem persisted_endSync_of_committed [LawfulNode ν]
    (committed : ((endSync success).on source).1 = .ok true) :
    ∃ tracking, source.tracking = some tracking ∧
      ((endSync success).stateAfter source).persisted =
        some (.ok (tracking.commitMap source.current)) := by
  obtain ⟨rfl, usable, commits, -⟩ := endSync_eq_ok_true.1 committed
  obtain ⟨tracking, tracked, saved⟩ := commit_eq_ok_true.1 commits
  refine ⟨tracking, tracked, ?_⟩
  have replaced := RevisionStore.replaced_of_saved (Prod.ext saved rfl)
  rw [persisted_endSync usable, persisted_commit tracked, replaced]

theorem LosesCommit.persisted [LawfulNode ν] {tracking : Tracking ν}
    (lost : source.LosesCommit tracking) :
    ((endSync true).stateAfter source).persisted =
      some (.ok (tracking.commitMap source.current)) := by
  rw [persisted_endSync lost.usable, persisted_commit lost.tracked, lost.replaced]

theorem LosesCommit.not_committed {tracking : Tracking ν} (lost : source.LosesCommit tracking) :
    ((endSync true).on source).1 ≠ .ok true := by
  intro committed
  obtain ⟨-, -, commits, closed⟩ := endSync_eq_ok_true.1 committed
  obtain ⟨other, tracked, saved⟩ := commit_eq_ok_true.1 commits
  cases lost.tracked.symm.trans tracked
  obtain ⟨e, refused⟩ | ⟨e, refused⟩ := lost.spoiled
  · rw [saved] at refused
    cases refused
  · rw [closed] at refused
    cases refused

/-- Without a commit, made or lost, the node refused the revisions. -/
theorem refused_of_not_committed {tracking : Tracking ν} (usable : source.Usable)
    (tracked : source.tracking = some tracking)
    (uncommitted : ((endSync true).on source).1 ≠ .ok true)
    (kept : ¬ source.LosesCommit tracking) :
    ∃ e, ((PropertyNode.replaceAll (tracking.commitMap source.current)).on tracking.node).1 =
      .error e := by
  cases replaced : ((PropertyNode.replaceAll (tracking.commitMap source.current)).on
      tracking.node).1 with
  | error e => exact ⟨e, rfl⟩
  | ok _ =>
    -- Had the node stored the revisions and the backend been closed, the answer would be
    -- that they were committed.
    refine absurd ⟨usable, tracked, replaced, ?_⟩ kept
    cases saved : ((RevisionStore.save (tracking.commitMap source.current)).on
        tracking.node).1 with
    | error e => exact .inl ⟨e, rfl⟩
    | ok _ =>
      have commits := commit_eq_ok_true.2 ⟨tracking, tracked, saved⟩
      cases closed : (closeBackend.on (commit.stateAfter source)).1 with
      | error e => exact .inr ⟨e, rfl⟩
      | ok _ => exact absurd (endSync_eq_ok_true.2 ⟨rfl, usable, commits, closed⟩) uncommitted

theorem persisted_endSync_of_not_committed [LawfulNode ν]
    (uncommitted : ((endSync success).on source).1 ≠ .ok true)
    (kept : success = true → ∀ tracking, ¬ source.LosesCommit tracking) :
    ((endSync success).stateAfter source).persisted = source.persisted := by
  by_cases committing : success = true ∧ source.Usable
  · obtain ⟨rfl, usable⟩ := committing
    rw [persisted_endSync usable]
    cases tracked : source.tracking with
    | none => rw [stateAfter, on_commit_untracked tracked]
    | some tracking =>
      obtain ⟨e, refused⟩ := refused_of_not_committed usable tracked uncommitted (kept rfl tracking)
      rw [persisted_commit tracked, refused]
      simp [Source.persisted, tracked]
  · rw [Source.persisted, Source.persisted, tracking_endSync_without_commit committing]

/-! ## What a later owner finds -/

section Reopening

variable [ReopenableNode ν] {tracking : Tracking ν}

omit [Backend β] in
/-- Whatever node is opened again in place of the one of the source has the revisions in it. -/
def LeavesBehind (revisions : RevisionMap) (source : Source β ν) : Prop :=
  ∀ {tracking found}, source.tracking = some tracking →
    ReopenableNode.Reopens tracking.node found → RevisionStore.load found = .ok revisions

theorem leavesBehind_of_saved (usable : source.Usable) (tracked : source.tracking = some tracking)
    (saved : ((RevisionStore.save (tracking.commitMap source.current)).on tracking.node).1 = .ok ()) :
    ((endSync true).stateAfter source).LeavesBehind (tracking.commitMap source.current) := by
  intro left found trackedAfter reopens
  have saves : (RevisionStore.save (tracking.commitMap source.current)).on tracking.node =
    (.ok (), _) := Prod.ext saved rfl
  rw [tracking_endSync usable, stateAfter, on_commit tracked, saves] at trackedAfter
  cases trackedAfter
  exact ReopenableNode.load_reopened saves reopens

theorem leavesBehind_endSync_of_committed
    (committed : ((endSync success).on source).1 = .ok true) :
    ∃ tracking, source.tracking = some tracking ∧
      ((endSync success).stateAfter source).LeavesBehind (tracking.commitMap source.current) := by
  obtain ⟨rfl, usable, commits, -⟩ := endSync_eq_ok_true.1 committed
  obtain ⟨tracking, tracked, saved⟩ := commit_eq_ok_true.1 commits
  exact ⟨tracking, tracked, leavesBehind_of_saved usable tracked saved⟩

/-- A commit that is lost because the backend cannot be closed is found all the same. -/
theorem LosesCommit.leavesBehind (lost : source.LosesCommit tracking)
    (saved : ((RevisionStore.save (tracking.commitMap source.current)).on tracking.node).1 = .ok ()) :
    ((endSync true).stateAfter source).LeavesBehind (tracking.commitMap source.current) :=
  leavesBehind_of_saved lost.usable lost.tracked saved

/-- Unless something was committed or lost, a node that is found later might have been found before. -/
theorem reopens_of_not_committed (tracked : source.tracking = some tracking)
    (hides : ReopenableNode.HidesRefusals tracking.node)
    (uncommitted : ((endSync success).on source).1 ≠ .ok true)
    (kept : success = true → ¬ source.LosesCommit tracking) :
    ∃ left, ((endSync success).stateAfter source).tracking = some left ∧
      ∀ {found}, ReopenableNode.Reopens left.node found →
        ReopenableNode.Reopens tracking.node found := by
  by_cases committing : success = true ∧ source.Usable
  · obtain ⟨rfl, usable⟩ := committing
    obtain ⟨e, refused⟩ := refused_of_not_committed usable tracked uncommitted (kept rfl)
    have unsaved : (RevisionStore.save (tracking.commitMap source.current)).on tracking.node =
        (.error (.storage e), (PropertyNode.replaceAll
          (tracking.commitMap source.current)).stateAfter tracking.node) :=
      RevisionStore.on_save_of_refused (Prod.ext refused rfl)
    rw [tracking_endSync usable, stateAfter, on_commit tracked, unsaved]
    exact ⟨_, rfl, hides (Prod.ext refused rfl)⟩
  · rw [tracking_endSync_without_commit committing]
    exact ⟨tracking, tracked, id⟩

end Reopening

end Source

end DataSync
