import DataSync.Basic
import DataSync.IoError
import DataSync.Table
import DataSync.Text.Split

/-!
# Disks

Directories of files, as far as nodes and file items use them: content, modification time and
advisory lock of a file, and the steps by which a file is replaced so that readers see either the old
content or the new one.  A disk can be given faults, each of which makes one of these steps fail.
-/

namespace DataSync

/-- A regular file.  The modification time is in nanoseconds, negative before the epoch. -/
structure File where
  content : Bytes
  modified : Int
  locked : Bool := false
deriving DecidableEq

/-- What a name in a directory stands for. -/
inductive Entry where
  | file (file : File)
  | directory
deriving DecidableEq

/-- The content of a directory. -/
abbrev Folder := Table Entry

/-- The steps of replacing a file. -/
inductive ReplaceStep where
  | createTemporary
  | write
  | sync
  | rename
  | openFolder
  | syncFolder
deriving DecidableEq

/-- A name in a directory. -/
structure FilePath where
  folder : String
  name : String
deriving DecidableEq

namespace FilePath

/-- The written form of a path. -/
def text (path : FilePath) : String :=
  match path.folder.toList.getLast? with
  | none | some '/' => path.folder ++ path.name
  | some _ => path.folder ++ "/" ++ path.name

/-- The path with a written form; what is before the last slash names the directory, and that slash
itself does if nothing is before it. -/
def ofText (text : String) : FilePath :=
  let reversed := text.toList.reverse
  let folder := match reversed.dropWhile (· ≠ '/') with
    | ['/'] => ['/']
    | outer => outer.tail.reverse
  ⟨String.ofList folder, String.ofList (reversed.takeWhile (· ≠ '/')).reverse⟩

end FilePath

/-- The directories by their paths, the time that the next write is stamped with, and the steps that
fail.  Paths are absolute or start at the working directory, and are written without dots and needless
slashes. -/
structure Disk where
  folders : Table Folder
  clock : Int := 0
  faults : List (ReplaceStep × IoError) := []
deriving DecidableEq

namespace Disk

/-- The octets that the name of a file may take. -/
def nameLimit : Nat := 255

/-- The directory of a path, if it is there and the name could stand in it. -/
def folder (path : FilePath) (disk : Disk) : Except IoError Folder :=
  if '\x00' ∈ path.name.toList then .error .nulInName
  else match disk.folders.get? path.folder with
    | none => .error .noSuchFile
    | some folder => if path.name.utf8ByteSize > nameLimit then .error .nameTooLong else .ok folder

/-- What a path stands for. -/
def entry? (path : FilePath) (disk : Disk) : Except IoError (Option Entry) :=
  (disk.folder path).map (·.get? path.name)

/-- The file at a path. -/
def file (path : FilePath) (disk : Disk) : Except IoError File := do
  match ← disk.entry? path with
  | none => throw .noSuchFile
  | some .directory => throw .isADirectory
  | some (.file file) => return file

/-- The disk in which a path stands for something else. -/
def put (path : FilePath) (entry : Entry) (disk : Disk) : Disk :=
  match disk.folders.get? path.folder with
  | none => disk
  | some folder =>
    { disk with folders := disk.folders.insert path.folder (folder.insert path.name entry) }

/-- The disk in which a path stands for nothing. -/
def drop (path : FilePath) (disk : Disk) : Disk :=
  match disk.folders.get? path.folder with
  | none => disk
  | some folder =>
    { disk with folders := disk.folders.insert path.folder (folder.erase path.name) }

/-- The disk in which a file has new content, stamped with the time of the write. -/
def stamp (path : FilePath) (content : Bytes) (disk : Disk) : Disk :=
  { disk.put path (.file { content, modified := disk.clock }) with clock := disk.clock + 1 }

/-- Write a file in place, or a new one. -/
def write (path : FilePath) (content : Bytes) : Action Disk IoError Unit :=
  .of fun disk => match disk.entry? path with
    | .error e => (.error e, disk)
    | .ok (some .directory) => (.error .isADirectory, disk)
    | .ok _ => (.ok (), disk.stamp path content)

/-- Remove a file. -/
def remove (path : FilePath) : Action Disk IoError Unit :=
  .of fun disk => match disk.file path with
    | .error e => (.error e, disk)
    | .ok _ => (.ok (), disk.drop path)

/-- A step of replacing a file, which fails if the disk has a fault there. -/
def pass (step : ReplaceStep) : Action Disk IoError Unit :=
  .of fun disk => match disk.faults.find? (·.1 = step) with
    | some (_, e) => (.error e, disk)
    | none => (.ok (), disk)

/-- The move of a finished temporary file to its place. -/
def moveInto (path : FilePath) (content : Bytes) : Action Disk IoError Unit :=
  .of fun disk => match disk.entry? path with
    | .error e => (.error e, disk)
    | .ok (some .directory) => (.error .isADirectory, disk)
    | .ok _ => (.ok (), disk.stamp path content)

/-- Replace a file in one move: the content is written to a temporary file beside it, made durable,
renamed into place, and then the directory is made durable. -/
def replace (path : FilePath) (content : Bytes) : Action Disk IoError Unit := do
  pass .createTemporary
  unless (← Action.view fun disk => disk.folders.contains path.folder) do throw .noSuchFile
  pass .write
  pass .sync
  pass .rename
  moveInto path content
  pass .openFolder
  pass .syncFolder

/-- The paths of the directories on the way to one, outermost first, with its own path at the end.  Those
on the way to an absolute path are absolute. -/
def ancestry (folder : String) : List String :=
  let start := if folder.toList.head? = some '/' then ['/'] else []
  let parts := (Text.splitAll '/' folder.toList).filter (· ≠ [])
  (List.range parts.length).map fun i =>
    String.ofList (start ++ ['/'].intercalate (parts.take (i + 1)))

/-- Something is in the place of a directory. -/
def isOccupied (folder : String) (disk : Disk) : Bool :=
  let path := FilePath.ofText folder
  disk.folders.contains folder ||
    (disk.folders.get? path.folder).any fun parent => parent.contains path.name

/-- Create a directory.  It is listed in the one around it if the disk has that; of the root and the
working directory there may be no content. -/
def createFolder (folder : String) : Action Disk IoError Unit :=
  .of fun disk =>
    let path := FilePath.ofText folder
    if path.name.utf8ByteSize > nameLimit then (.error .nameTooLong, disk)
    else if disk.isOccupied folder then (.error .fileExists, disk)
    else
      let disk := disk.put path .directory
      (.ok (), { disk with folders := disk.folders.insert folder .empty })

/-- Create a directory after those around it, innermost first, unless it is there.  Those around one that
is there are not looked at, and a file in place of one of them is no directory. -/
def createWithin : List String → Action Disk IoError Unit
  | [] => pure ()
  | folder :: outer => do
    unless (← Action.view fun disk => disk.folders.contains folder) do
      (createWithin outer).mapError fun e => if e = .fileExists then .notADirectory else e
      createFolder folder

/-- Create a directory and those on the way to it, as far as they are missing. -/
def createFolders (folder : String) : Action Disk IoError Unit := do
  unless (← Action.view fun disk => disk.folders.contains folder) do
    if '\x00' ∈ folder.toList then throw .nulInName
    createWithin (ancestry folder).reverse

/-- The disk without a directory and all that is in it. -/
def removeFolder (folder : String) (disk : Disk) : Disk :=
  let inside (path : String) : Bool := path = folder ∨ (FilePath.text ⟨folder, ""⟩).isPrefixOf path
  let disk := disk.drop (FilePath.ofText folder)
  { disk with folders := disk.folders.filter fun path _ => !inside path }

/-- The disk in which the lock of a file is taken or given back. -/
def setLock (path : FilePath) (locked : Bool) (disk : Disk) : Disk :=
  match disk.file path with
  | .error _ => disk
  | .ok file => disk.put path (.file { file with locked })

/-- Take the lock of a file, which is created if it is missing.  The answer is whether nobody else
had it. -/
def acquire (path : FilePath) : Action Disk IoError Bool :=
  .of fun disk => match disk.entry? path with
    | .error e => (.error e, disk)
    | .ok (some .directory) => (.error .isADirectory, disk)
    | .ok none => (.ok true, (disk.stamp path []).setLock path true)
    | .ok (some (.file file)) =>
      if file.locked then (.ok false, disk) else (.ok true, disk.setLock path true)

end Disk

end DataSync
