import DataSync.Proofs.Storage.DiskEntries
import DataSync.Proofs.Storage.LawfulNode
import DataSync.Proofs.Storage.WrittenLines

/-!
# Reopened nodes

A node in a file that is dropped can be opened again, and then it holds what was stored last.  This
needs that the lock file stands apart from the node file, that dropping the node frees the lock, and
that property files are read as they were written.
-/

namespace DataSync

namespace FileNode

open DataSync.Action

variable {path : FilePath} {disk after : Disk} {node : FileNode} {properties : Properties}

theorem lockPath_ne (path : FilePath) : lockPath path ≠ path := by
  intro same
  have names : path.name ++ ".lock" = path.name := congrArg FilePath.name same
  have lengths := congrArg String.length names
  simp at lengths

/-- Where a lock file can stand, the file that it guards can stand, too. -/
theorem folder_of_lockPath {content : Folder} (there : disk.folder (lockPath path) = .ok content) :
    disk.folder path = .ok content := by
  obtain ⟨noNul, present, short⟩ := Disk.folder_eq_ok.1 there
  refine Disk.folder_eq_ok.2 ⟨fun nul => noNul ?_, present, ?_⟩
  · simp [lockPath, nul]
  · simp only [lockPath, String.utf8ByteSize_append] at short
    omega

/-! ## Loading -/

theorem load_congr {other : Disk} (same : disk.entry? path = other.entry? path) :
    load path disk = load path other := by
  unfold load Disk.file
  rw [same]

theorem load_of_written {found : File} (there : disk.entry? path = .ok (some (.file found)))
    (written : found.content = Bytes.ofText (PropertyFile.render properties)) :
    load path disk = .ok (properties, true) := by
  simp [load, Disk.file_eq_ok.2 there, written, PropertyFile.parse_render]

theorem noDirectory_of_load {content : Folder} {loaded : Properties × Bool}
    (there : disk.folder path = .ok content) (loads : load path disk = .ok loaded) :
    content.get? path.name ≠ some .directory := by
  intro directory
  have entry : disk.entry? path = .ok (some .directory) :=
    Disk.entry?_eq_ok.2 ⟨content, there, directory⟩
  have refused : disk.file path = .error .isADirectory := by
    rw [Disk.file, entry]
    rfl
  rw [load, refused] at loads
  cases loads

theorem openAt_eq_ok (opens : openAt path disk = (.ok node, after)) :
    ∃ properties stored, (Disk.acquire (lockPath path)).on disk = (.ok true, after) ∧
      load path after = .ok (properties, stored) ∧
      node = { path, properties, dirty := false, stored, disk := after } := by
  rw [openAt] at opens
  split at opens
  · cases opens
  · cases opens
  · rename_i acquired taken
    split at opens
    · cases opens
    · rename_i properties stored loads
      cases opens
      exact ⟨properties, stored, taken, loads, rfl⟩

/-- An opened node holds what was written into its file. -/
theorem read_of_openAt (opens : openAt path disk = (.ok node, after)) {found : File}
    (there : disk.entry? path = .ok (some (.file found)))
    (written : found.content = Bytes.ofText (PropertyFile.render properties)) :
    PropertyNode.read node = .ok properties := by
  obtain ⟨loaded, stored, taken, loads, rfl⟩ := openAt_eq_ok opens
  have untouched := (Disk.acquire_eq_ok_true taken).2 path (lockPath_ne path).symm
  rw [load_of_written (untouched.trans there) written] at loads
  cases loads
  rfl

/-! ## Nodes in use -/

/-- A node after it was opened and some of its operations were done, successfully or not, on a disk
that may begin and cease to fail at any time. -/
inductive InUse : FileNode → Prop where
  | opened {path : FilePath} {disk after : Disk} {node : FileNode} :
      openAt path disk = (.ok node, after) → InUse node
  | set {node : FileNode} (key value : String) :
      InUse node → InUse ((PropertyNode.set key value).stateAfter node)
  | remove {node : FileNode} (key : String) :
      InUse node → InUse ((PropertyNode.remove key).stateAfter node)
  | replaceAll {node : FileNode} (properties : Properties) :
      InUse node → InUse ((PropertyNode.replaceAll properties).stateAfter node)
  | flush {node : FileNode} : InUse node → InUse (PropertyNode.flush.stateAfter node)
  | faults {node : FileNode} (faults : List (ReplaceStep × IoError)) :
      InUse node → InUse { node with disk := { node.disk with faults } }

/-- The lock file of a node is there, and the node file is there or can be made. -/
structure Attached (node : FileNode) : Prop where
  locked : ∃ lock, node.disk.entry? (lockPath node.path) = .ok (some (.file lock))
  placed : ∃ entry, node.disk.entry? node.path = .ok entry ∧ entry ≠ some .directory

theorem attached_of_openAt (opens : openAt path disk = (.ok node, after)) : node.Attached := by
  obtain ⟨properties, stored, taken, loads, rfl⟩ := openAt_eq_ok opens
  obtain ⟨lock, locked⟩ := (Disk.acquire_eq_ok_true taken).1
  obtain ⟨content, there, -⟩ := Disk.entry?_eq_ok.1 locked
  have inFolder := folder_of_lockPath there
  exact ⟨⟨lock, locked⟩, content.get? path.name, Disk.entry?_eq_ok.2 ⟨content, inFolder, rfl⟩,
    noDirectory_of_load inFolder loads⟩

theorem on_store (properties : Properties) (node : FileNode) :
    (store properties).on node =
      match (Disk.replace node.path (Bytes.ofText (PropertyFile.render properties))).on node.disk with
      | (.error e, disk) => (.error (.io e), { node with disk })
      | (.ok (), disk) =>
        (.ok (), { node with properties, dirty := false, stored := true, disk }) := rfl

theorem store_eq_ok {stored : FileNode} (stores : (store properties).on node = (.ok (), stored)) :
    ∃ disk, (Disk.replace node.path (Bytes.ofText (PropertyFile.render properties))).on node.disk =
        (.ok (), disk) ∧
      stored = { node with properties, dirty := false, stored := true, disk } := by
  rw [on_store] at stores
  rcases replaced : (Disk.replace node.path
      (Bytes.ofText (PropertyFile.render properties))).on node.disk with ⟨_ | ⟨⟩, disk⟩ <;>
    rw [replaced] at stores <;> cases stores
  exact ⟨disk, rfl, rfl⟩

/-- Storing properties leaves the disk as it was, or with a new node file. -/
theorem Attached.store (properties : Properties) (attached : node.Attached) :
    ((store properties).stateAfter node).Attached := by
  obtain ⟨⟨lock, locked⟩, entry, placed, noDirectory⟩ := attached
  obtain ⟨content, inFolder, -⟩ := Disk.entry?_eq_ok.1 placed
  obtain ⟨e, refused⟩ | ⟨_, answer, -, -, moved⟩ :=
    Disk.replace_cases node.path (Bytes.ofText (PropertyFile.render properties)) node.disk
  · rw [stateAfter, on_store, refused]
    exact ⟨⟨lock, locked⟩, entry, placed, noDirectory⟩
  · have stillLocked := (Disk.entry?_stamp inFolder
      (Bytes.ofText (PropertyFile.render properties)) (lockPath node.path)).trans
        (if_neg (lockPath_ne node.path))
    have nowPlaced := (Disk.entry?_stamp inFolder
      (Bytes.ofText (PropertyFile.render properties)) node.path).trans (if_pos rfl)
    rw [stateAfter, on_store, moved]
    cases answer <;>
      exact ⟨⟨lock, stillLocked.trans locked⟩, _, nowPlaced, by simp⟩

theorem InUse.attached (inUse : InUse node) : node.Attached := by
  induction inUse with
  | opened opens => exact attached_of_openAt opens
  | set key value _ attached =>
    change Attached (if _ then _ else _)
    split
    · exact attached
    · exact ⟨attached.locked, attached.placed⟩
  | remove key _ attached =>
    change Attached (if _ then _ else _)
    split
    · exact ⟨attached.locked, attached.placed⟩
    · exact attached
  | replaceAll properties _ attached => exact attached.store properties
  | flush _ attached =>
    simp only [PropertyNode.flush, stateAfter, on_of]
    split
    · exact attached.store _
    · exact attached
  | faults faults _ attached => exact ⟨attached.locked, attached.placed⟩

/-! ## Saving and opening again -/

/-- Once the revisions were stored nothing is left to be flushed. -/
theorem on_save (revisions : RevisionMap) (node : FileNode) :
    (RevisionStore.save revisions).on node =
      (((store revisions).on node).1.mapError .storage, ((store revisions).on node).2) := by
  rw [RevisionStore.save, on_mapError, on_bind]
  rcases stores : (store revisions).on node with ⟨e | ⟨⟩, stored⟩
  · rfl
  · obtain ⟨disk, -, rfl⟩ := store_eq_ok stores
    rfl

theorem store_of_save {revisions : RevisionMap} {saved : FileNode}
    (saves : (RevisionStore.save revisions).on node = (.ok (), saved)) :
    (store revisions).on node = (.ok (), saved) := by
  rw [on_save] at saves
  rcases stores : (store revisions).on node with ⟨e | ⟨⟩, stored⟩ <;> rw [stores] at saves <;>
    cases saves
  rfl

theorem save_eq_ok {revisions : RevisionMap} {saved : FileNode}
    (saves : (RevisionStore.save revisions).on node = (.ok (), saved)) :
    ∃ disk, (Disk.replace node.path (Bytes.ofText (PropertyFile.render revisions))).on node.disk =
        (.ok (), disk) ∧
      saved = { node with properties := revisions, dirty := false, stored := true, disk } :=
  store_eq_ok (store_of_save saves)

theorem written_of_save {revisions : RevisionMap} {saved : FileNode}
    (saves : (RevisionStore.save revisions).on node = (.ok (), saved)) :
    ∃ found, saved.disk.entry? saved.path = .ok (some (.file found)) ∧
      found.content = Bytes.ofText (PropertyFile.render revisions) := by
  obtain ⟨disk, replaces, rfl⟩ := save_eq_ok saves
  exact ⟨_, Disk.entry?_replace replaces, rfl⟩

theorem InUse.save {revisions : RevisionMap} {saved : FileNode} (inUse : InUse node)
    (saves : (RevisionStore.save revisions).on node = (.ok (), saved)) : InUse saved := by
  have after := inUse.replaceAll revisions
  change InUse ((store revisions).stateAfter node) at after
  rwa [stateAfter, store_of_save saves] at after

theorem store_of_faultless (attached : node.Attached) (faultless : node.disk.faults = [])
    (properties : Properties) : ∃ stored, (store properties).on node = (.ok (), stored) := by
  obtain ⟨entry, placed, noDirectory⟩ := attached.placed
  have replaces := Disk.replace_of_faultless faultless placed noDirectory
    (Bytes.ofText (PropertyFile.render properties))
  rw [on_store, replaces]
  exact ⟨_, rfl⟩

theorem save_of_faultless (attached : node.Attached) (faultless : node.disk.faults = [])
    (revisions : RevisionMap) :
    ∃ saved, (RevisionStore.save revisions).on node = (.ok (), saved) := by
  obtain ⟨stored, stores⟩ := store_of_faultless attached faultless revisions
  rw [on_save, stores]
  exact ⟨stored, rfl⟩

theorem entry?_close (node : FileNode) : node.close.entry? node.path = node.disk.entry? node.path :=
  Disk.entry?_setLock_other (lockPath_ne node.path).symm false

/-- The lock is free once the node was dropped, so that only the loading can still fail. -/
theorem openAt_close (attached : node.Attached) :
    ∃ disk : Disk, load node.path disk = load node.path node.disk ∧
      openAt node.path node.close =
        match load node.path node.disk with
        | .error e => (.error e, disk.setLock (lockPath node.path) false)
        | .ok (properties, stored) =>
          (.ok { path := node.path, properties, dirty := false, stored, disk }, disk) := by
  obtain ⟨lock, locked⟩ := attached.locked
  have taken := Disk.on_acquire_of_free (Disk.entry?_setLock locked false) rfl
  have same : load node.path (node.close.setLock (lockPath node.path) true) =
      load node.path node.disk := by
    apply load_congr
    rw [Disk.entry?_setLock_other (lockPath_ne _).symm, entry?_close]
  refine ⟨_, same, ?_⟩
  rw [close] at same ⊢
  cases loads : load node.path node.disk <;> rw [loads] at same <;>
    simp only [openAt, taken, same]

/-- A node whose file was written can be opened again after it was dropped. -/
theorem exists_openAt_close (attached : node.Attached) {found : File}
    (there : node.disk.entry? node.path = .ok (some (.file found)))
    (written : found.content = Bytes.ofText (PropertyFile.render properties)) :
    ∃ reopened after, openAt node.path node.close = (.ok reopened, after) := by
  obtain ⟨disk, -, opens⟩ := openAt_close attached
  rw [load_of_written there written] at opens
  exact ⟨_, _, opens⟩

end FileNode

/-- A property file is read as the table that was written into it, and a node in use takes every map
of revisions, unless its disk fails, and holds exactly this map when it was dropped and is opened
again. -/
theorem load_of_saved_and_reopened (revisions : RevisionMap) :
    PropertyFile.parse (PropertyFile.render revisions) = .ok revisions ∧
      ∀ node : FileNode, node.InUse →
        (node.disk.faults = [] →
          ∃ saved, (RevisionStore.save revisions).on node = (.ok (), saved)) ∧
        ∀ saved, (RevisionStore.save revisions).on node = (.ok (), saved) →
          ∃ reopened disk, FileNode.openAt node.path saved.close = (.ok reopened, disk) ∧
            RevisionStore.load reopened = .ok revisions := by
  refine ⟨PropertyFile.parse_render revisions, fun node inUse =>
    ⟨fun faultless => FileNode.save_of_faultless inUse.attached faultless revisions, ?_⟩⟩
  intro saved saves
  obtain ⟨found, there, written⟩ := FileNode.written_of_save saves
  have samePath : saved.path = node.path := by
    obtain ⟨disk, -, rfl⟩ := FileNode.save_eq_ok saves
    rfl
  obtain ⟨reopened, disk, opens⟩ :=
    FileNode.exists_openAt_close (inUse.save saves).attached there written
  have holds := FileNode.read_of_openAt opens ((FileNode.entry?_close saved).trans there) written
  refine ⟨reopened, disk, samePath ▸ opens, ?_⟩
  rw [RevisionStore.load, holds]
  rfl

/-- A disk with one directory, in which nothing is yet. -/
def emptyFolder : Disk :=
  { folders := .ofList [("/var/sync", .empty)] }

/-- Identifiers and revisions that mean something else in a property file, or nothing. -/
def oddRevisions : RevisionMap :=
  .ofList [("", " "), ("#=!", "\u3000 x\n"), ("\u0085", "")]

theorem load_of_saved_and_reopened_oddRevisions :
    ∃ node opened saved reopened disk,
      FileNode.openAt ⟨"/var/sync", "notes"⟩ emptyFolder = (.ok node, opened) ∧
      (RevisionStore.save oddRevisions).on node = (.ok (), saved) ∧
      FileNode.openAt node.path saved.close = (.ok reopened, disk) ∧
      RevisionStore.load reopened = .ok oddRevisions := by
  obtain ⟨node, opened, opens, faultless⟩ : ∃ node opened,
      FileNode.openAt ⟨"/var/sync", "notes"⟩ emptyFolder = (.ok node, opened) ∧
        node.disk.faults = [] := ⟨_, _, rfl, rfl⟩
  obtain ⟨-, nodes⟩ := load_of_saved_and_reopened oddRevisions
  obtain ⟨saves, reopens⟩ := nodes node (.opened opens)
  obtain ⟨saved, saving⟩ := saves faultless
  obtain ⟨reopened, disk, reopening, loads⟩ := reopens saved saving
  exact ⟨node, opened, saved, reopened, disk, opens, saving, reopening, loads⟩

end DataSync
