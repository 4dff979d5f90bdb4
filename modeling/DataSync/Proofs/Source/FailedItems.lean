import DataSync.Proofs.Source.NextSession

/-!
# Failed items

An item that failed is committed as it was before the session, so that the next session may find it
changed again.  It does so only if the item stands differently then from how it stood before the failed
session: a failure of an item that did not change on this side leaves nothing to be found.
-/

namespace DataSync

namespace Source

open DataSync.Action

variable {β ν : Type} [Backend β] [PropertyNode ν] {before source ended : Source β ν}
  {mode : SyncMode} {calls : List SourceCall} {earlier : Tracking ν} {luid : Luid}

/-- An item that failed in a committed session is a change in the next two-way session if and only if
its revision is then another one than the one that the failed session had loaded; either may be
missing. -/
theorem failed_item_changes_again_iff [ReopenableNode ν] (tracked : before.tracking = some earlier)
    (during : During before mode calls source) (failed : .recordFailure luid ∈ calls)
    (committed : (endSync true).on source = (.ok true, ended)) :
    ∃ tracking, source.tracking = some tracking ∧
      (mode.isEnabled = true → (Backend.openItems.on before.backend).1 = .ok () →
        RevisionStore.load earlier.node = .ok tracking.previous) ∧
      ∀ next opened listing listed, Continues ended next →
        Backend.openItems.on next.backend = (.ok (), opened) →
        Backend.list.on opened = (.ok listing, listed) →
          ∃ changes after, (beginSync .twoWay).on next = (.ok changes, after) ∧
            (luid ∈ changes.added ∨ luid ∈ changes.updated ∨ luid ∈ changes.deleted ↔
              listing.get? luid ≠ tracking.previous.get? luid) := by
  obtain ⟨tracking, trackedAtEnd, recorded, loads⟩ := during.known tracked
  refine ⟨tracking, trackedAtEnd, loads (usable_of_committed committed), ?_⟩
  intro next opened listing listed continues opens lists
  have twoWayEnabled : SyncMode.twoWay.isEnabled = true := rfl
  obtain ⟨changes, after, begins, compared⟩ := exists_changes_of_continues trackedAtEnd committed
    continues twoWayEnabled rfl rfl opens lists
  have reverted := compared luid
  rw [if_pos ((recorded luid).2 failed)] at reverted
  exact ⟨changes, after, begins, ChangeSet.changed_iff reverted⟩

/-- A note that did not change since it was committed, and that cannot be stored. -/
def settledNote : Source MemoryBackend MemoryNode :=
  fresh (MemoryBackend.withItems [("1", [97])] { name := "notes", failsInsert := .ofList [("1", ())] })
    (some (.holding "notes" (.ofList [("1", "1")])))

/-- An update of the note is refused. -/
def refusedUpdate : List SourceCall :=
  [.begin .twoWay, .item (.insert (some "1") [98]), .recordFailure "1"]

theorem refused_update_of_edited_note :
    ∃ ended changes after, (endSync true).on (settledNote.after refusedUpdate) = (.ok true, ended) ∧
      (beginSync .twoWay).on { ended with backend := settledNote.backend.edit "1" [99] } =
        (.ok changes, after) ∧
      ("1" ∈ changes.added ∨ "1" ∈ changes.updated ∨ "1" ∈ changes.deleted) := by
  have during : During settledNote .twoWay
      [.item (.insert (some "1") [98]), .recordFailure "1"] (settledNote.after refusedUpdate) :=
    .called _ rfl (.called _ rfl .begun)
  have committed : (endSync true).on (settledNote.after refusedUpdate) =
    (.ok true, (endSync true).stateAfter (settledNote.after refusedUpdate)) := rfl
  obtain ⟨tracking, tracked, -, again⟩ :=
    failed_item_changes_again_iff rfl during (List.mem_of_mem_tail List.mem_cons_self) committed
  cases tracked
  obtain ⟨changes, after, begins, changed⟩ :=
    again _ _ _ _ (continues_same rfl (settledNote.backend.edit "1" [99])) rfl rfl
  exact ⟨_, changes, after, committed, begins, changed.2 (by decide)⟩

/-- A failed note that is the same as before the session is not found again. -/
theorem refused_update_is_forgotten :
    ¬ ∀ ended changes after, (endSync true).on (settledNote.after refusedUpdate) = (.ok true, ended) →
      (beginSync .twoWay).on ended = (.ok changes, after) →
        "1" ∈ changes.added ∨ "1" ∈ changes.updated ∨ "1" ∈ changes.deleted := by
  intro found
  have changed := found _ _ _ rfl rfl
  revert changed
  decide

end Source

end DataSync
