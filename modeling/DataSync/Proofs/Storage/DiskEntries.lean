import DataSync.Proofs.Keeps
import DataSync.Storage.Disk

/-!
# Entries of a disk

What the operations on a disk do to what its paths stand for.  Each of them changes the entry of one
path and leaves those of all others, in the same directory and elsewhere.
-/

namespace DataSync

/-- Whether a step comes before the directory is made durable. -/
def ReplaceStep.isUpToRename : ReplaceStep → Bool
  | openFolder | syncFolder => false
  | _ => true

namespace Disk

open DataSync.Action

variable {disk after : Disk} {path other : FilePath}

theorem folder_eq_ok {content : Folder} :
    disk.folder path = .ok content ↔ '\x00' ∉ path.name.toList ∧
      disk.folders.get? path.folder = some content ∧ path.name.utf8ByteSize ≤ nameLimit := by
  rw [folder]
  split
  · simp_all
  · cases disk.folders.get? path.folder with
    | none => simp
    | some found => grind

theorem entry?_eq_ok {entry : Option Entry} :
    disk.entry? path = .ok entry ↔
      ∃ content, disk.folder path = .ok content ∧ content.get? path.name = entry := by
  unfold entry?
  cases disk.folder path <;> simp [Except.map]

theorem file_eq_ok {found : File} :
    disk.file path = .ok found ↔ disk.entry? path = .ok (some (.file found)) := by
  rw [file]
  rcases disk.entry? path with _ | _ | _ | _ <;> simp [bind, Except.bind, pure, Except.pure, throw,
    throwThe, MonadExceptOf.throw]

/-! ## Writing -/

theorem folder_put {content : Folder} (there : disk.folder path = .ok content) (entry : Entry)
    (other : FilePath) :
    (disk.put path entry).folder other = (disk.folder other).map fun content =>
      if other.folder = path.folder then content.insert path.name entry else content := by
  obtain ⟨-, present, -⟩ := folder_eq_ok.1 there
  by_cases same : other.folder = path.folder <;>
    simp only [folder, put, present, same, Table.get?_insert] <;> grind [Except.map]

theorem entry?_put {content : Folder} (there : disk.folder path = .ok content) (entry : Entry)
    (other : FilePath) :
    entry? other (disk.put path entry) =
      if other = path then .ok (some entry) else disk.entry? other := by
  unfold entry?
  rw [folder_put there]
  by_cases same : other = path
  · subst same
    simp [there, Except.map]
  · rw [if_neg same]
    cases found : disk.folder other with
    | error e => rfl
    | ok content =>
      by_cases sameFolder : other.folder = path.folder
      · have named : other.name ≠ path.name := fun sameName => by
          cases path
          cases other
          simp_all
        simp [Except.map, sameFolder, named]
      · simp [Except.map, sameFolder]

theorem entry?_stamp {content : Folder} (there : disk.folder path = .ok content) (octets : Bytes)
    (other : FilePath) :
    entry? other (disk.stamp path octets) =
      if other = path then .ok (some (.file { content := octets, modified := disk.clock }))
      else disk.entry? other :=
  entry?_put there (.file { content := octets, modified := disk.clock }) other

theorem faults_stamp (path : FilePath) (octets : Bytes) (disk : Disk) :
    (disk.stamp path octets).faults = disk.faults := by
  rw [stamp, put]
  split <;> rfl

/-! ## Locks -/

theorem entry?_setLock {found : File} (there : disk.entry? path = .ok (some (.file found)))
    (locked : Bool) :
    entry? path (disk.setLock path locked) = .ok (some (.file { found with locked })) := by
  obtain ⟨content, inFolder, -⟩ := entry?_eq_ok.1 there
  rw [setLock, file_eq_ok.2 there]
  exact (entry?_put inFolder _ path).trans (if_pos rfl)

theorem entry?_setLock_other (different : other ≠ path) (locked : Bool) :
    entry? other (disk.setLock path locked) = disk.entry? other := by
  rw [setLock]
  split
  · rfl
  · rename_i found there
    obtain ⟨content, inFolder, -⟩ := entry?_eq_ok.1 (file_eq_ok.1 there)
    exact (entry?_put inFolder _ other).trans (if_neg different)

/-- Whoever has a lock has its file, too, and nothing else on the disk has changed. -/
theorem acquire_eq_ok_true (taken : (acquire path).on disk = (.ok true, after)) :
    (∃ lock, after.entry? path = .ok (some (.file lock))) ∧
      ∀ other, other ≠ path → after.entry? other = disk.entry? other := by
  simp only [acquire, on_of] at taken
  split at taken
  · cases taken
  · cases taken
  · rename_i missing
    cases taken
    obtain ⟨content, inFolder, -⟩ := entry?_eq_ok.1 missing
    refine ⟨⟨_, entry?_setLock ((entry?_stamp inFolder [] path).trans (if_pos rfl)) true⟩, ?_⟩
    intro other different
    rw [entry?_setLock_other different]
    exact (entry?_stamp inFolder [] other).trans (if_neg different)
  · rename_i found there
    split at taken
    · cases taken
    · cases taken
      exact ⟨⟨_, entry?_setLock there true⟩, fun other different =>
        entry?_setLock_other different true⟩

theorem on_acquire_of_free {found : File} (there : disk.entry? path = .ok (some (.file found)))
    (free : found.locked = false) :
    (acquire path).on disk = (.ok true, disk.setLock path true) := by
  simp only [acquire, on_of, there, free, Bool.false_eq_true, if_false]

/-! ## Replacing -/

theorem pass_cases (step : ReplaceStep) (disk : Disk) :
    (pass step).on disk = (.ok (), disk) ∨ ∃ e, (pass step).on disk = (.error e, disk) := by
  simp only [pass, on_of]
  split
  · exact .inr ⟨_, rfl⟩
  · exact .inl rfl

theorem on_pass_eq_ok_iff (step : ReplaceStep) :
    (pass step).on disk = (.ok (), disk) ↔ ∀ e, (step, e) ∉ disk.faults := by
  simp only [pass, on_of]
  split
  · rename_i named e fault
    have member := List.mem_of_find?_eq_some fault
    have same : named = step := by simpa using List.find?_some fault
    subst same
    simpa using ⟨e, member⟩
  · rename_i absent
    simp only [true_iff]
    intro e fault
    simpa using List.find?_eq_none.1 absent _ fault

theorem moveInto_cases (path : FilePath) (content : Bytes) (disk : Disk) :
    (∃ e, (moveInto path content).on disk = (.error e, disk)) ∨
      ∃ entry, disk.entry? path = .ok entry ∧ entry ≠ some .directory ∧
        (moveInto path content).on disk = (.ok (), disk.stamp path content) := by
  rcases there : disk.entry? path with _ | _ | _ | _ <;> simp [moveInto, there]

/-- Replacing a file as far as the rename. -/
def moveIn (path : FilePath) (content : Bytes) : Action Disk IoError Unit := do
  pass .createTemporary
  unless (← Action.view fun disk => disk.folders.contains path.folder) do throw .noSuchFile
  pass .write
  pass .sync
  pass .rename
  moveInto path content

/-- Making the directory durable after the rename. -/
def syncParent : Action Disk IoError Unit := do
  pass .openFolder
  pass .syncFolder

theorem replace_eq (path : FilePath) (content : Bytes) :
    replace path content = (do moveIn path content; syncParent) := by
  simp only [replace, moveIn, syncParent, bind_assoc]
  congr 1
  funext _
  congr 1
  funext present
  split <;> simp only [bind_assoc]

theorem moveIn_cases (path : FilePath) (content : Bytes) (disk : Disk) :
    (∃ e, (moveIn path content).on disk = (.error e, disk)) ∨
      (∀ step : ReplaceStep, step.isUpToRename = true → (pass step).on disk = (.ok (), disk)) ∧
      ∃ entry, disk.entry? path = .ok entry ∧ entry ≠ some .directory ∧
        (moveIn path content).on disk = (.ok (), disk.stamp path content) := by
  unfold moveIn
  obtain created | ⟨e, refused⟩ := pass_cases .createTemporary disk
  case inr => exact .inl ⟨e, by simp only [on_bind, refused]⟩
  by_cases present : disk.folders.contains path.folder = true
  case neg => exact .inl ⟨.noSuchFile, by simp [on_bind, created, present]⟩
  obtain written | ⟨e, refused⟩ := pass_cases .write disk
  case inr => exact .inl ⟨e, by simp [on_bind, created, present, refused]⟩
  obtain synced | ⟨e, refused⟩ := pass_cases .sync disk
  case inr => exact .inl ⟨e, by simp [on_bind, created, present, written, refused]⟩
  obtain renamed | ⟨e, refused⟩ := pass_cases .rename disk
  case inr => exact .inl ⟨e, by simp [on_bind, created, present, written, synced, refused]⟩
  obtain ⟨e, refused⟩ | ⟨entry, there, noDirectory, moved⟩ := moveInto_cases path content disk
  case inl =>
    exact .inl ⟨e, by simp [on_bind, created, present, written, synced, renamed, refused]⟩
  refine .inr ⟨fun step early => ?_, entry, there, noDirectory, ?_⟩
  · cases step with
    | createTemporary => exact created
    | write => exact written
    | sync => exact synced
    | rename => exact renamed
    | openFolder | syncFolder => cases early
  · simp [on_bind, created, present, written, synced, renamed, moved]

theorem stateAfter_syncParent (disk : Disk) : syncParent.stateAfter disk = disk := by
  unfold syncParent stateAfter
  obtain opened | ⟨e, refused⟩ := pass_cases .openFolder disk
  · obtain finished | ⟨e, refused⟩ := pass_cases .syncFolder disk <;> simp [on_bind, *]
  · simp [on_bind, refused]

theorem on_syncParent_of_sound (sound : ∀ fault ∈ disk.faults, fault.1.isUpToRename = true) :
    syncParent.on disk = (.ok (), disk) := by
  have passes (step : ReplaceStep) (late : step.isUpToRename = false) :
      (pass step).on disk = (.ok (), disk) := by
    rw [on_pass_eq_ok_iff]
    intro e fault
    exact absurd (sound _ fault) (by simp [late])
  simp [syncParent, on_bind, passes .openFolder rfl, passes .syncFolder rfl]

/-- Replacing a file leaves the disk as it was, or with the new file and all else as it was. -/
theorem replace_cases (path : FilePath) (content : Bytes) (disk : Disk) :
    (∃ e, (replace path content).on disk = (.error e, disk)) ∨
      ∃ entry answer, disk.entry? path = .ok entry ∧ entry ≠ some .directory ∧
        (replace path content).on disk = (answer, disk.stamp path content) := by
  rw [replace_eq, on_bind]
  obtain ⟨e, refused⟩ | ⟨-, entry, there, noDirectory, moved⟩ := moveIn_cases path content disk
  · exact .inl ⟨e, by rw [refused]⟩
  · -- What can still fail leaves the moved file where it is.
    refine .inr ⟨entry, (syncParent.on (disk.stamp path content)).1, there, noDirectory, ?_⟩
    rw [moved]
    exact Prod.ext rfl (stateAfter_syncParent _)

theorem replace_of_faultless (faultless : disk.faults = []) {entry : Option Entry}
    (there : disk.entry? path = .ok entry) (noDirectory : entry ≠ some .directory)
    (content : Bytes) :
    (replace path content).on disk = (.ok (), disk.stamp path content) := by
  have present : disk.folders.contains path.folder = true := by
    obtain ⟨folder, inFolder, -⟩ := entry?_eq_ok.1 there
    simp [Table.contains, (folder_eq_ok.1 inFolder).2.1]
  have passes (step : ReplaceStep) : (pass step).on disk = (.ok (), disk) :=
    (on_pass_eq_ok_iff step).2 (by simp [faultless])
  have passes' (step : ReplaceStep) :
      (pass step).on (disk.stamp path content) = (.ok (), disk.stamp path content) :=
    (on_pass_eq_ok_iff step).2 (by simp [faults_stamp, faultless])
  have moved : (moveInto path content).on disk = (.ok (), disk.stamp path content) := by
    rcases entry with _ | _ | _ <;> simp_all [moveInto]
  simp [replace, on_bind, passes, present, moved, passes']

theorem entry?_replace {content : Bytes}
    (replaced : (replace path content).on disk = (.ok (), after)) :
    after.entry? path = .ok (some (.file { content, modified := disk.clock })) := by
  obtain ⟨e, refused⟩ | ⟨entry, answer, there, -, moved⟩ := replace_cases path content disk
  · rw [refused] at replaced
    cases replaced
  · obtain ⟨folder, inFolder, -⟩ := entry?_eq_ok.1 there
    rw [moved] at replaced
    cases replaced
    exact (entry?_stamp inFolder content path).trans (if_pos rfl)

end Disk

end DataSync
