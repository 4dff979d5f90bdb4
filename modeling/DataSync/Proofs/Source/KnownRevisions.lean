import DataSync.Proofs.Source.Beginning
import DataSync.Proofs.Source.MemoryItems

/-!
# Known revisions

A source does not list its items again when it stored or removed one: it keeps the revisions that it
knows up to date by hand.  Over a backend in memory they are the listing of the backend from the
beginning of a session on, through any accesses and failures of items, so that a commit leaves what
the next session has to compare with.
-/

namespace DataSync

open DataSync.Action

/-! ## Revisions to commit -/

def Tracking.revert {ν : Type} (tracking : Tracking ν) (revisions : RevisionMap) (luid : Luid) :
    RevisionMap :=
  match tracking.previous.get? luid with
  | some revision => revisions.insert luid revision
  | none => revisions.erase luid

theorem Tracking.get?_revert {ν : Type} (tracking : Tracking ν) (revisions : RevisionMap)
    (luid key : Luid) :
    (tracking.revert revisions luid).get? key =
      if key = luid then tracking.previous.get? key else revisions.get? key := by
  unfold revert
  by_cases same : key = luid
  · subst same
    cases tracking.previous.get? key <;> simp
  · cases tracking.previous.get? luid <;> simp [same]

theorem Tracking.get?_foldl_revert {ν : Type} (tracking : Tracking ν) (luids : List Luid)
    (revisions : RevisionMap) (key : Luid) :
    (luids.foldl tracking.revert revisions).get? key =
      if key ∈ luids then tracking.previous.get? key else revisions.get? key := by
  induction luids generalizing revisions with
  | nil => simp
  | cons luid rest inductionHypothesis =>
    rw [List.foldl_cons, inductionHypothesis, get?_revert]
    by_cases later : key ∈ rest <;> by_cases same : key = luid <;> simp [later, same]

/-- A commit takes failed items from the previous revisions and all others from the current ones. -/
theorem Tracking.get?_commitMap {ν : Type} (tracking : Tracking ν) (current : RevisionMap)
    (key : Luid) :
    (tracking.commitMap current).get? key =
      if tracking.failed.contains key then tracking.previous.get? key else current.get? key := by
  have reverted := tracking.get?_foldl_revert tracking.failed.keys current key
  simp only [← Table.contains_iff_mem_keys] at reverted
  exact reverted

namespace Source

variable {ν : Type}

/-- The known revisions are those that the backend would list. -/
structure Reflects (source : Source MemoryBackend ν) : Prop where
  ready : source.backend.Ready
  current_eq : source.current = source.backend.revisions

namespace Reflects

variable {source : Source MemoryBackend ν}

/-- The backend answers a listing with the known revisions, and nothing else happens. -/
theorem on_list (reflects : source.Reflects) :
    Backend.list.on source.backend = (.ok source.current, source.backend) := by
  rw [MemoryBackend.on_list reflects.ready, reflects.current_eq]

theorem note (e : SourceError) (reflects : source.Reflects) : (source.note e).Reflects :=
  ⟨by simpa using reflects.ready, by simpa using reflects.current_eq⟩

theorem recordFailure (luid : Luid) (reflects : source.Reflects) :
    (source.recordFailure luid).Reflects :=
  ⟨reflects.ready, reflects.current_eq⟩

theorem readItem (luid : Luid) (reflects : source.Reflects) (usable : source.Usable) :
    ((Source.readItem luid).stateAfter source).Reflects := by
  unfold stateAfter
  rw [on_readItem luid usable, MemoryBackend.on_read luid reflects.ready]
  -- Whatever is answered, the backend stays as it is.
  generalize (if source.backend.failsRead.contains luid then _ else _ :
    Except SourceError Bytes) = answer
  cases answer with
  | ok _ => exact reflects
  | error e => exact reflects.note e

theorem allocated (allocator : IdAllocator) (reflects : source.Reflects) :
    ({ source with backend := { source.backend with allocator } } :
      Source MemoryBackend ν).Reflects :=
  ⟨reflects.ready, reflects.current_eq⟩

theorem stored (luid : Luid) (content : Bytes) (reflects : source.Reflects) :
    ({ source with
        backend := source.backend.put luid content
        current := source.current.insert luid (toString (source.backend.writes + 1)) } :
      Source MemoryBackend ν).Reflects :=
  ⟨reflects.ready, by
    rw [MemoryBackend.revisions_put, reflects.current_eq]⟩

theorem insertItem (luid : Option Luid) (content : Bytes) (reflects : source.Reflects)
    (usable : source.Usable) : ((Source.insertItem luid content).stateAfter source).Reflects := by
  unfold stateAfter
  rw [on_insertItem luid content usable, MemoryBackend.on_insert luid content reflects.ready]
  cases luid with
  | some luid =>
    by_cases rejected : source.backend.failsInsert.contains luid
    · simp only [rejected, if_true]
      exact reflects.note _
    · simp only [rejected, Bool.false_eq_true, if_false, MemoryBackend.store, on_of,
        currentAfterInsert, if_true]
      exact reflects.stored luid content
  | none =>
    -- The allocator moves on whether or not it finds an identifier.
    simp only [MemoryBackend.freshLuid, on_of]
    rcases IdAllocator.allocateWith _ _ _ with ⟨_ | luid, allocator, ⟨⟩⟩
    · exact (reflects.allocated allocator).note _
    · exact (reflects.allocated allocator).stored luid content

theorem deleteItem (luid : Luid) (reflects : source.Reflects) (usable : source.Usable) :
    ((Source.deleteItem luid).stateAfter source).Reflects := by
  unfold stateAfter
  rw [on_deleteItem luid usable, MemoryBackend.on_remove luid reflects.ready]
  by_cases rejected : source.backend.failsRemove.contains luid
  · simp only [rejected, if_true]
    exact Reflects.note _ ⟨reflects.ready, reflects.current_eq⟩
  · by_cases present : source.backend.items.contains luid
    · simp only [rejected, present, Bool.false_eq_true, if_false, if_true]
      exact ⟨reflects.ready, by rw [MemoryBackend.revisions_discard, reflects.current_eq]⟩
    · -- An item that is gone already was in neither listing.
      simp only [rejected, present, Bool.false_eq_true, if_false]
      refine Reflects.note _ ⟨reflects.ready, ?_⟩
      rw [reflects.current_eq]
      apply Table.ext_get?
      intro key
      have absent : source.backend.items.get? luid = none := by
        simpa [Table.contains] using present
      by_cases same : key = luid <;> simp [same, absent]

theorem item (call : ItemCall) (reflects : source.Reflects) :
    (call.perform.stateAfter source).Reflects := by
  by_cases usable : source.Usable
  · cases call with
    | read luid =>
      rw [ItemCall.perform, stateAfter_map]
      exact reflects.readItem luid usable
    | insert luid content =>
      rw [ItemCall.perform, stateAfter_map]
      exact reflects.insertItem luid content usable
    | delete luid =>
      rw [ItemCall.perform, stateAfter_map]
      exact reflects.deleteItem luid usable
  · obtain ⟨_, _, refused⟩ := call.on_perform_of_not_usable usable
    unfold stateAfter
    rw [refused]
    exact reflects

end Reflects

/-! ## The beginning -/

/-- A wipe that succeeds leaves none of the items that it was given. -/
theorem get?_items_of_wipe {luids : List Luid} {backend after : MemoryBackend}
    (ready : backend.Ready) (wiped : (wipe luids).on backend = (.ok (), after)) :
    after.Ready ∧ ∀ key, after.items.get? key =
      if key ∈ luids then none else backend.items.get? key := by
  induction luids generalizing backend with
  | nil =>
    cases wiped
    exact ⟨ready, by simp⟩
  | cons luid rest inductionHypothesis =>
    simp only [wipe, on_of, MemoryBackend.on_remove luid ready] at wiped
    by_cases rejected : backend.failsRemove.contains luid
    · simp [rejected] at wiped
    by_cases present : backend.items.contains luid
    · simp only [rejected, present, Bool.false_eq_true, if_false, if_true] at wiped
      have discarded : (backend.discard luid).Ready := ready
      obtain ⟨afterReady, items⟩ := inductionHypothesis discarded wiped
      refine ⟨afterReady, fun key => ?_⟩
      rw [items key]
      by_cases later : key ∈ rest <;> by_cases same : key = luid <;>
        simp [later, same, MemoryBackend.discard]
    · simp only [rejected, present, Bool.false_eq_true, if_false] at wiped
      obtain ⟨afterReady, items⟩ := inductionHypothesis ready wiped
      refine ⟨afterReady, fun key => ?_⟩
      have absent : backend.items.get? luid = none := by
        simpa [Table.contains] using present
      rw [items key]
      by_cases later : key ∈ rest <;> by_cases same : key = luid <;> simp [later, same, absent]

theorem revisions_of_wipe {backend after : MemoryBackend} (ready : backend.Ready)
    (wiped : (wipe backend.revisions.keys).on backend = (.ok (), after)) :
    after.Ready ∧ after.revisions = .empty := by
  obtain ⟨afterReady, items⟩ := get?_items_of_wipe ready wiped
  refine ⟨afterReady, Table.ext_get? fun key => ?_⟩
  rw [MemoryBackend.get?_revisions, items key]
  simp only [← Table.contains_iff_mem_keys, Table.contains, MemoryBackend.get?_revisions]
  cases backend.items.get? key <;> simp

variable [PropertyNode ν]

/-- From the beginning of a session on the known revisions are those that the backend lists, and the
revisions of the last committed session are loaded. -/
theorem reflects_of_beginSync {mode : SyncMode} {changes : ChangeSet} {tracking : Tracking ν}
    {source after : Source MemoryBackend ν} (enabled : mode.isEnabled = true)
    (tracked : source.tracking = some tracking)
    (begun : (beginSync mode).on source = (.ok changes, after)) :
    after.Reflects ∧ ∃ loaded, RevisionStore.load tracking.node = .ok loaded ∧
      after.tracking = some { node := tracking.node, previous := loaded } := by
  rw [on_beginSync enabled, on_noting] at begun
  rcases detected : detectChanges.on (source.cleared mode) with ⟨_ | _, _⟩ <;>
    rw [detected] at begun <;> cases begun
  obtain ⟨opened, loaded, revisions, listed, _, loading, listing, rest⟩ := detectChanges_ok detected
  obtain ⟨ready, rfl, rfl⟩ := MemoryBackend.ready_of_list listing
  simp only [loadPrevious, on_of, cleared, tracked, Option.map_some] at loading
  rcases loads : RevisionStore.load tracking.node with _ | previous <;>
    rw [loads] at loading <;> cases loading
  -- A wipe leaves no items and no known revisions; otherwise the listing was taken over.
  refine ⟨?_, previous, rfl, ?_⟩
  · split at rest
    · obtain ⟨wiped, wiping, rfl⟩ := rest
      obtain ⟨wipedReady, nothing⟩ := revisions_of_wipe ready wiping
      exact ⟨wipedReady, nothing.symm⟩
    · subst rest
      exact ⟨ready, rfl⟩
  · split at rest
    · obtain ⟨_, _, rfl⟩ := rest
      rfl
    · subst rest
      rfl

end Source

end DataSync
