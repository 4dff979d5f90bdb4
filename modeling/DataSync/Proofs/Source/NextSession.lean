import DataSync.Proofs.Source.Comparison
import DataSync.Proofs.Source.KnownRevisions
import DataSync.Proofs.Source.Standing
import DataSync.Proofs.Storage.ReopenableNode

/-!
# The next session

What a session finds that follows a committed one, on the same source or on a new one over the node
that was left.  The listing of that later session is compared with the revisions that were known when
the session before ended, and for the items that failed in it with the revisions that it had loaded
itself.
-/

namespace DataSync

namespace Source

open DataSync.Action

variable {β ν : Type} [Backend β] [PropertyNode ν]

/-! ## In a session -/

/-- The source after calls in a session that began with `mode` on the source `before`.  The backend may
change behind the back of the source at any time. -/
inductive During (before : Source β ν) (mode : SyncMode) : List SourceCall → Source β ν → Prop where
  | begun : During before mode [] ((beginSync mode).stateAfter before)
  | called {calls : List SourceCall} {source : Source β ν} (call : SourceCall) :
      call.isAmid = true → During before mode calls source →
      During before mode (calls ++ [call]) (call.perform.stateAfter source)
  | touched {calls : List SourceCall} {source : Source β ν} (backend : β) :
      During before mode calls source → During before mode calls { source with backend }

variable {before source ended next : Source β ν} {mode : SyncMode} {calls : List SourceCall}
  {earlier tracking : Tracking ν}

theorem During.usable_begun (during : During before mode calls source) (usable : source.Usable) :
    ((beginSync mode).stateAfter before).Usable := by
  induction during with
  | begun => exact usable
  | called call amid _ inductionHypothesis => exact inductionHypothesis (usable_of_amid amid usable)
  | touched backend _ inductionHypothesis => exact inductionHypothesis usable

/-- The calls in a session add the failed items to what its beginning left, and nothing else. -/
theorem During.tracking_eq {node : ν} {previous : RevisionMap}
    (during : During before mode calls source)
    (begun : ((beginSync mode).stateAfter before).tracking = some { node, previous }) :
    ∃ failed, source.tracking = some { node, previous, failed } ∧
      ∀ luid, failed.contains luid = true ↔ .recordFailure luid ∈ calls := by
  -- The failed items are those recorded so far, and no call but a record adds to them.
  induction during with
  | begun => exact ⟨.empty, begun, by simp [Table.contains]⟩
  | touched backend _ inductionHypothesis => exact inductionHypothesis
  | called call amid _ inductionHypothesis =>
    obtain ⟨failed, trackedBefore, recorded⟩ := inductionHypothesis
    cases call with
    | begin mode => cases amid
    | finish success => cases amid
    | item call =>
      refine ⟨failed, ?_, by simp [recorded]⟩
      rw [SourceCall.perform, stateAfter_map, call.tracking_perform, trackedBefore]
    | fail reason => exact ⟨failed, trackedBefore, by simp [recorded]⟩
    | recordFailure luid =>
      refine ⟨failed.insert luid (), ?_, fun key => ?_⟩
      · simp [SourceCall.perform, stateAfter, Source.recordFailure, trackedBefore]
      · have earlierFailure := recorded key
        by_cases same : key = luid <;> simp_all [Table.contains]

/-- What a source knows in a session: the items that failed in it, and the revisions that its beginning
loaded, if it came so far. -/
theorem During.known (during : During before mode calls source)
    (tracked : before.tracking = some earlier) :
    ∃ tracking, source.tracking = some tracking ∧
      (∀ luid, tracking.failed.contains luid = true ↔ .recordFailure luid ∈ calls) ∧
      (source.Usable → mode.isEnabled = true →
        (Backend.openItems.on before.backend).1 = .ok () →
          RevisionStore.load earlier.node = .ok tracking.previous) := by
  obtain ⟨previous, begun⟩ := tracking_beginSync tracked mode
  obtain ⟨failed, trackedNow, recorded⟩ := during.tracking_eq begun
  refine ⟨_, trackedNow, recorded, fun usable enabled opens => ?_⟩
  obtain ⟨loaded, loads, begunLoaded⟩ :=
    loaded_of_beginSync enabled tracked opens (during.usable_begun usable)
  rw [begun] at begunLoaded
  cases begunLoaded
  exact loads

/-! ## After a session -/

/-- The next source has the node that the ended one left, still open or opened again.  Everything else
may be different. -/
def Continues [ReopenableNode ν] (ended next : Source β ν) : Prop :=
  ∃ left found, ended.tracking = some left ∧ next.tracking = some found ∧
    (found.node = left.node ∨ ReopenableNode.Reopens left.node found.node)

omit [Backend β] in
/-- The same source goes on, over a backend that changed in the meantime. -/
theorem continues_same [ReopenableNode ν] {left : Tracking ν} (tracked : ended.tracking = some left)
    (backend : β) : Continues ended { ended with backend } :=
  ⟨left, left, tracked, tracked, .inl rfl⟩

omit [Backend β] in
/-- A new source takes the node over. -/
theorem continues_fresh [ReopenableNode ν] {left : Tracking ν} {found : ν}
    (tracked : ended.tracking = some left) (reopened : ReopenableNode.Reopens left.node found)
    (backend : β) : Continues ended (fresh backend (some found)) :=
  ⟨left, { node := found }, tracked, rfl, .inr reopened⟩

theorem load_of_continues [ReopenableNode ν] (tracked : source.tracking = some tracking)
    (committed : (endSync true).on source = (.ok true, ended)) (continues : Continues ended next) :
    ∃ found, next.tracking = some found ∧
      RevisionStore.load found.node = .ok (tracking.commitMap source.current) := by
  obtain ⟨node, saves, trackedAfter⟩ := tracking_of_committed tracked committed
  -- What the source has left is the node that took the revisions.
  obtain ⟨left, found, trackedLeft, trackedNext, kept | reopened⟩ := continues
  all_goals
    rw [trackedAfter] at trackedLeft
    cases trackedLeft
  · exact ⟨found, trackedNext, kept ▸ RevisionStore.load_of_save saves⟩
  · exact ⟨found, trackedNext, ReopenableNode.load_reopened saves reopened⟩

/-- The next session compares its listing with what was committed. -/
theorem exists_changes_of_continues [ReopenableNode ν] {listing : RevisionMap} {opened listed : β}
    (tracked : source.tracking = some tracking)
    (committed : (endSync true).on source = (.ok true, ended)) (continues : Continues ended next)
    (enabled : mode.isEnabled = true) (partly : mode.sendsAllItems = false)
    (keeps : mode.wipesItems = false)
    (opens : Backend.openItems.on next.backend = (.ok (), opened))
    (lists : Backend.list.on opened = (.ok listing, listed)) :
    ∃ changes after, (beginSync mode).on next = (.ok changes, after) ∧
      ∀ luid, changes.state? luid = ItemState.against (listing.get? luid)
        (if tracking.failed.contains luid then tracking.previous.get? luid
          else source.current.get? luid) := by
  obtain ⟨found, trackedNext, loads⟩ := load_of_continues tracked committed continues
  refine ⟨_, _, on_beginSync_of_listed trackedNext loads enabled partly keeps opens lists,
    fun luid => ?_⟩
  rw [ChangeSet.state?_between, Tracking.get?_commitMap]

/-- After a commit the next session, in a mode that looks for changes, finds every item as its listing
stands against the revisions known at the commit, and failed items as it stands against the revisions
that the committed session had loaded.  It makes no difference whether the source is the same one or
the node was dropped and opened again in between. -/
theorem next_changes_compare_with_committed [ReopenableNode ν]
    (tracked : source.tracking = some tracking)
    (committed : (endSync true).on source = (.ok true, ended)) :
    (∀ before earlier mode calls, before.tracking = some earlier → During before mode calls source →
      (∀ luid, tracking.failed.contains luid = true ↔ .recordFailure luid ∈ calls) ∧
        (mode.isEnabled = true → (Backend.openItems.on before.backend).1 = .ok () →
          RevisionStore.load earlier.node = .ok tracking.previous)) ∧
    ∀ next mode opened listing listed, Continues ended next → mode.isEnabled = true →
      mode.sendsAllItems = false → mode.wipesItems = false →
      Backend.openItems.on next.backend = (.ok (), opened) →
      Backend.list.on opened = (.ok listing, listed) →
        ∃ changes after, (beginSync mode).on next = (.ok changes, after) ∧
          ∀ luid state, luid ∈ changes.withState state ↔
            ItemState.against (listing.get? luid)
              (if tracking.failed.contains luid then tracking.previous.get? luid
                else source.current.get? luid) = some state := by
  refine ⟨fun before earlier mode calls trackedBefore during => ?_,
    fun next mode opened listing listed continues enabled partly keeps opens lists => ?_⟩
  · obtain ⟨known, trackedNow, recorded, loads⟩ := during.known trackedBefore
    cases tracked.symm.trans trackedNow
    exact ⟨recorded, loads (usable_of_committed committed)⟩
  · obtain ⟨changes, after, begins, compared⟩ := exists_changes_of_continues tracked committed
      continues enabled partly keeps opens lists
    refine ⟨changes, after, begins, fun luid state => ?_⟩
    rw [ChangeSet.mem_withState, compared]

/-- A node that was just opened and has no file yet. -/
def newNode : FileNode where
  path := ⟨"/var/sync", "notes"⟩
  properties := .empty
  dirty := false
  stored := false
  disk := (Disk.acquire ⟨"/var/sync", "notes.lock"⟩).stateAfter emptyFolder

/-- Two notes. -/
def freshNotes : MemoryBackend :=
  MemoryBackend.withItems [("1", [97]), ("2", [98])] { name := "notes" }

theorem next_changes_of_reopened_notes :
    ∃ ended left reopened disk changes after,
      FileNode.openAt newNode.path emptyFolder = (.ok newNode, newNode.disk) ∧
      RevisionStore.load newNode = .ok .empty ∧
      (endSync true).on ((fresh freshNotes (some newNode)).after
        [.begin .twoWay, .recordFailure "1"]) = (.ok true, ended) ∧
      ended.tracking = some left ∧
      FileNode.openAt left.node.path left.node.close = (.ok reopened, disk) ∧
      (beginSync .oneWayFromLocal).on (fresh (freshNotes.edit "2" [99]) (some reopened)) =
        (.ok changes, after) ∧
      "1" ∈ changes.added ∧ "2" ∈ changes.updated := by
  have opens : FileNode.openAt newNode.path emptyFolder = (.ok newNode, newNode.disk) := rfl
  obtain ⟨ended, committed⟩ : ∃ ended, (endSync true).on ((fresh freshNotes (some newNode)).after
    [.begin .twoWay, .recordFailure "1"]) = (.ok true, ended) := ⟨_, rfl⟩
  have tracked : ((fresh freshNotes (some newNode)).after
    [.begin .twoWay, .recordFailure "1"]).tracking =
      some { node := newNode, failed := .ofList [("1", ())] } := rfl
  have during : During (fresh freshNotes (some newNode)) .twoWay [.recordFailure "1"]
      ((fresh freshNotes (some newNode)).after [.begin .twoWay, .recordFailure "1"]) :=
    .called _ rfl .begun
  obtain ⟨known, compares⟩ := next_changes_compare_with_committed tracked committed
  have loads := (known _ _ _ _ rfl during).2 rfl rfl
  obtain ⟨node, saves, left⟩ := tracking_of_committed tracked committed
  obtain ⟨file, there, written⟩ := FileNode.written_of_save saves
  obtain ⟨reopened, disk, reopening⟩ :=
    FileNode.exists_openAt_close ((FileNode.InUse.opened opens).save saves).attached there written
  have reopens : ReopenableNode.Reopens node reopened := ⟨_, disk, rfl, reopening⟩
  have continues := continues_fresh left reopens (freshNotes.edit "2" [99])
  obtain ⟨changes, after, begins, compared⟩ :=
    compares _ .oneWayFromLocal _ _ _ continues rfl rfl rfl rfl rfl
  exact ⟨ended, _, reopened, disk, changes, after, opens, loads, committed, left, reopening, begins,
    (compared "1" .added).2 rfl, (compared "2" .updated).2 rfl⟩

end Source

end DataSync
