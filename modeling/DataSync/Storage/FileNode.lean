import DataSync.Storage.Disk
import DataSync.Storage.Node

/-!
# Nodes in files

A node whose properties are kept in a property file.  While it is open it holds the lock of a file
beside it, works on a copy of the properties, and replaces the file as a whole when it stores them.
A node file that changed under an open node is not read again.
-/

namespace DataSync

/-- An open node and the disk that its file is on. -/
structure FileNode where
  path : FilePath
  properties : Properties
  dirty : Bool
  stored : Bool
  disk : Disk
deriving DecidableEq

namespace FileNode

/-- The file whose lock guards a node. -/
def lockPath (path : FilePath) : FilePath :=
  { path with name := path.name ++ ".lock" }

/-- The properties in a node file, and whether it is there. -/
def load (path : FilePath) (disk : Disk) : Except StorageError (Properties × Bool) :=
  match disk.file path with
  | .error e => if e.kind = .notFound then .ok (.empty, false) else .error (.io e)
  | .ok file =>
    match Bytes.text? file.content with
    | none => .error (.io .notText)
    | some text =>
      match PropertyFile.parse text with
      | .error (line, problem) => .error (.corrupted path.text line problem.message)
      | .ok properties => .ok (properties, true)

/-- Open a node; the disk comes back in both cases, with the lock taken if the node is open. -/
def openAt (path : FilePath) (disk : Disk) : Except StorageError FileNode × Disk :=
  match (Disk.acquire (lockPath path)).on disk with
  | (.error e, disk) => (.error (.io e), disk)
  | (.ok false, disk) => (.error (.locked path.text), disk)
  | (.ok true, disk) =>
    match load path disk with
    | .error e => (.error e, disk.setLock (lockPath path) false)
    | .ok (properties, stored) =>
      (.ok { path, properties, dirty := false, stored, disk }, disk)

/-- Open a node after creating the directories on the way to it. -/
def openCreating (path : FilePath) (disk : Disk) : Except StorageError FileNode × Disk :=
  match (Disk.createFolders path.folder).on disk with
  | (.error e, disk) => (.error (.io e), disk)
  | (.ok (), disk) => openAt path disk

/-- The disk after a node was closed, with its lock given back. -/
def close (node : FileNode) : Disk :=
  node.disk.setLock (lockPath node.path) false

/-- Replace the node file, and take `properties` as the content of the node once that has
succeeded. -/
def store (properties : Properties) : Action FileNode StorageError Unit :=
  .of fun node =>
    match (Disk.replace node.path (Bytes.ofText (PropertyFile.render properties))).on node.disk with
    | (.error e, disk) => (.error (.io e), { node with disk })
    | (.ok (), disk) => (.ok (), { node with properties, dirty := false, stored := true, disk })

instance : PropertyNode FileNode where
  name node := node.path.text
  isStored node := node.stored
  read node := .ok node.properties
  set key value := .alter fun node =>
    if node.properties.get? key = some value then node
    else { node with properties := node.properties.insert key value, dirty := true }
  remove key := .alter fun node =>
    if node.properties.contains key then
      { node with properties := node.properties.erase key, dirty := true }
    else node
  replaceAll := store
  flush := .of fun node => if node.dirty then (store node.properties).on node else (.ok (), node)

end FileNode

end DataSync
