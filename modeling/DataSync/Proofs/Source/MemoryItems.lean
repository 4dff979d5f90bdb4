import DataSync.Proofs.Keeps
import DataSync.Source.MemoryBackend

/-!
# Calls of the backend in memory

What each call of a backend in memory answers and leaves behind, and what that does to the listing of
its items.  A backend that is open and whose storage works answers every listing; only stored and
removed items change it.
-/

namespace DataSync

namespace MemoryBackend

open DataSync.Action

def Ready (backend : MemoryBackend) : Prop :=
  backend.isOpen = true ∧ backend.failsStorage = none

theorem on_check {backend : MemoryBackend} (ready : backend.Ready) :
    check.on backend = (.ok (), backend) := by
  simp [check, ready.1, ready.2]

theorem on_check_of_not_ready {backend : MemoryBackend} (unready : ¬ backend.Ready) :
    ∃ e, check.on backend = (.error e, backend) := by
  simp only [check, on_of]
  split
  · exact ⟨_, rfl⟩
  · rename_i works
    have isClosed : backend.isOpen = false := by simpa [Ready, works] using unready
    exact ⟨_, by rw [isClosed]; rfl⟩

theorem ready_of_list {backend after : MemoryBackend} {revisions : RevisionMap}
    (listed : Backend.list.on backend = (.ok revisions, after)) :
    backend.Ready ∧ revisions = backend.revisions ∧ after = backend := by
  by_cases ready : backend.Ready
  · simp only [Backend.list, on_bind, on_check ready, on_get, on_pure] at listed
    cases listed
    exact ⟨ready, rfl, rfl⟩
  · obtain ⟨e, refused⟩ := on_check_of_not_ready ready
    simp [Backend.list, on_bind, refused] at listed

theorem on_list {backend : MemoryBackend} (ready : backend.Ready) :
    Backend.list.on backend = (.ok backend.revisions, backend) := by
  simp only [Backend.list, on_bind, on_check ready, on_get, on_pure]

theorem on_read (luid : Luid) {backend : MemoryBackend} (ready : backend.Ready) :
    (Backend.read luid).on backend =
      (if backend.failsRead.contains luid then
        .error (.backend backend.name ("cannot read " ++ luid) false)
      else match backend.items.get? luid with
        | some item => .ok item.content
        | none => .error (.notFound luid), backend) := by
  simp only [Backend.read, on_bind, on_check ready, on_get]
  split
  · rfl
  · cases backend.items.get? luid <;> rfl

theorem on_insert (luid : Option Luid) (content : Bytes) {backend : MemoryBackend}
    (ready : backend.Ready) :
    (Backend.insert luid content).on backend =
      match luid with
      | some luid =>
        if backend.failsInsert.contains luid then
          (.error (.invalidItem luid "rejected by backend"), backend)
        else (store luid (backend.items.contains luid) content).on backend
      | none => match freshLuid.on backend with
        | (.ok luid, backend) => (store luid false content).on backend
        | (.error e, backend) => (.error e, backend) := by
  simp only [Backend.insert, on_bind, on_check ready]
  cases luid with
  | none =>
    rw [on_bind]
    cases freshLuid.on backend with
    | mk answer after => cases answer <;> rfl
  | some luid =>
    simp only [on_bind, on_get]
    split <;> rfl

theorem on_remove (luid : Luid) {backend : MemoryBackend} (ready : backend.Ready) :
    (Backend.remove luid).on backend =
      if backend.failsRemove.contains luid then
        (.error (.backend backend.name ("cannot remove " ++ luid) false), backend)
      else if backend.items.contains luid then (.ok (), backend.discard luid)
      else (.error (.notFound luid), backend) := by
  simp only [Backend.remove, on_bind, on_check ready, on_get]
  split
  · rfl
  · -- The rest of the operation is a choice, which has to be seen through what follows it.
    change (ite _ _ _ : Action MemoryBackend SourceError Unit).on backend = _
    split <;> rfl

/-! ## Listings -/

@[simp] theorem get?_revisions (backend : MemoryBackend) (luid : Luid) :
    backend.revisions.get? luid = (backend.items.get? luid).map (toString ·.written) := by
  simp only [revisions, Table.get?_filterMap]
  cases backend.items.get? luid <;> rfl

theorem revisions_put (luid : Luid) (content : Bytes) (backend : MemoryBackend) :
    (backend.put luid content).revisions =
      backend.revisions.insert luid (toString (backend.writes + 1)) := by
  apply Table.ext_get?
  intro key
  simp only [get?_revisions, put, Table.get?_insert]
  split <;> rfl

theorem revisions_discard (luid : Luid) (backend : MemoryBackend) :
    (backend.discard luid).revisions = backend.revisions.erase luid := by
  apply Table.ext_get?
  intro key
  simp only [get?_revisions, discard, Table.get?_erase]
  split <;> rfl

end MemoryBackend

end DataSync
