import DataSync.Source.Allocator
import DataSync.Source.Backend
import DataSync.Storage.Disk

/-!
# Items in files

A backend that keeps each item in a file of a directory.  The identifier is the name of the file and
the revision its modification time.  Hidden files and directories are not items.
-/

namespace DataSync

/-- A directory of item files and the disk that it is on. -/
structure FileItems where
  name : String
  folder : String
  mimeType : String := "text/plain"
  allocator : IdAllocator := default
  isOpen : Bool := false
  disk : Disk
deriving DecidableEq

namespace FileItems

/-- The revision of a file with a modification time: its nanoseconds since the epoch, or zero before
it. -/
def revisionOf (modified : Int) : Revision :=
  toString modified.toNat

/-- Whether a name is hidden. -/
def isHidden (name : String) : Bool :=
  name.toList.head? = some '.'

/-- Whether an identifier can be the name of an item file. -/
def isUsable (luid : Luid) : Bool :=
  luid ≠ "" && !isHidden luid && luid.toList.all fun c => c ≠ '/' && c ≠ '\\'

/-- The revisions of the item files in a directory. -/
def listing (folder : Folder) : RevisionMap :=
  folder.filterMap fun name entry =>
    match entry with
    | .directory => none
    | .file file => if isHidden name then none else some (revisionOf file.modified)

/-- Access to the items is possible. -/
def check : Action FileItems SourceError Unit :=
  .of fun items => (if items.isOpen then .ok () else .error (.notOpen items.name), items)

/-- The path of an item file. -/
def path (luid : Luid) : Action FileItems SourceError FilePath :=
  .of fun items =>
    (if isUsable luid then .ok ⟨items.folder, luid⟩
      else .error (.invalidItem luid "not usable as file name"), items)

/-- An access to the disk. -/
def onDisk {α : Type} (failure : IoError → SourceError) (action : Action Disk IoError α) :
    Action FileItems SourceError α :=
  (action.mapError failure).within (·.disk) fun disk items => { items with disk }

/-- The failure of an access to an item that should be there. -/
def missing (luid : Luid) (e : IoError) : SourceError :=
  if e.kind = .notFound then .notFound luid else .io e

/-- A question to the disk. -/
def ask {α : Type} (failure : IoError → SourceError) (question : Disk → Except IoError α) :
    Action FileItems SourceError α :=
  onDisk failure (.of fun disk => (question disk, disk))

/-- The directory. -/
def openFolder (folder : String) (disk : Disk) : Except IoError Folder :=
  match disk.folders.get? folder with
  | some content => .ok content
  | none => .error .noSuchFile

/-- The revisions of all items. -/
def list : Action FileItems SourceError RevisionMap := do
  check
  let items ← get
  return listing (← ask .io (openFolder items.folder))

/-- The result of storing a file. -/
def stored (luid : Luid) (wasUpdate : Bool) (path : FilePath) :
    Action FileItems SourceError Inserted := do
  let file ← ask .io (Disk.file path)
  return { luid, revision := revisionOf file.modified, wasUpdate }

/-- An identifier for which there is nothing in the directory yet. -/
def freshLuid : Action FileItems SourceError Luid :=
  .of fun items =>
    let taken (luid : Luid) : Action Unit SourceError Bool :=
      match items.disk.entry? ⟨items.folder, luid⟩ with
      | .error e => throw (.io e)
      | .ok entry => pure entry.isSome
    match items.allocator.allocateWith taken () with
    | (result, allocator, ()) => (result, { items with allocator })

instance : Backend FileItems where
  name := name
  mimeType := mimeType
  openItems := do
    onDisk .io (Disk.createFolders (← get).folder)
    modify fun items => { items with isOpen := true }
    let revisions ← list
    modify fun items => { items with allocator := .seeded revisions.keys }
  closeItems := .alter fun items => { items with isOpen := false }
  list := list
  read luid := do
    check
    return (← ask (missing luid) (Disk.file (← path luid))).content
  insert luid content := do
    check
    match luid with
    | some luid =>
      let path ← path luid
      let existed := match (← get).disk.file path with
        | .ok _ => true
        | .error _ => false
      onDisk .io (Disk.write path content)
      modify fun items => { items with allocator := items.allocator.observe luid }
      stored luid existed path
    | none =>
      let luid ← freshLuid
      let path : FilePath := ⟨(← get).folder, luid⟩
      onDisk .io (Disk.write path content)
      stored luid false path
  remove luid := do
    check
    onDisk (missing luid) (Disk.remove (← path luid))

end FileItems

end DataSync
