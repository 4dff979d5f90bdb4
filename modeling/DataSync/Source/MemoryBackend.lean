import DataSync.Source.Allocator
import DataSync.Source.Backend

/-!
# Items in memory

A backend whose revisions count the writes.  It can be told to fail: as a whole, when it is opened,
or for single items.
-/

namespace DataSync

/-- An item and the number of the write that made it. -/
structure StoredItem where
  content : Bytes
  written : Nat
deriving DecidableEq

/-- A backend whose items last as long as its value. -/
structure MemoryBackend where
  name : String
  mimeType : String := "text/plain"
  items : Table StoredItem := .empty
  allocator : IdAllocator := default
  writes : Nat := 0
  isOpen : Bool := false
  timesOpened : Nat := 0
  failsOpen : Option String := none
  failsStorage : Option String := none
  failsInsert : LuidSet := .empty
  failsRead : LuidSet := .empty
  failsRemove : LuidSet := .empty
deriving DecidableEq

namespace MemoryBackend

/-- The backend in which an item was written. -/
def put (luid : Luid) (content : Bytes) (backend : MemoryBackend) : MemoryBackend :=
  let written := backend.writes + 1
  { backend with items := backend.items.insert luid ⟨content, written⟩, writes := written }

/-- The backend in which somebody else wrote an item. -/
def edit (luid : Luid) (content : Bytes) (backend : MemoryBackend) : MemoryBackend :=
  { backend with allocator := backend.allocator.observe luid }.put luid content

/-- The backend with items written one after the other. -/
def withItems (items : List (Luid × Bytes)) (backend : MemoryBackend) : MemoryBackend :=
  items.foldl (fun backend item => backend.edit item.1 item.2) backend

/-- The backend from which somebody else removed an item. -/
def discard (luid : Luid) (backend : MemoryBackend) : MemoryBackend :=
  { backend with items := backend.items.erase luid }

/-- The backend that fails no more. -/
def heal (backend : MemoryBackend) : MemoryBackend :=
  { backend with
    failsOpen := none, failsStorage := none,
    failsInsert := .empty, failsRead := .empty, failsRemove := .empty }

/-- The revisions of all items. -/
def revisions (backend : MemoryBackend) : RevisionMap :=
  backend.items.filterMap fun _ item => some (toString item.written)

/-- Access to the items is possible. -/
def check : Action MemoryBackend SourceError Unit :=
  .of fun backend =>
    match backend.failsStorage with
    | some reason => (.error (.backend backend.name reason true), backend)
    | none => (if backend.isOpen then .ok () else .error (.notOpen backend.name), backend)

/-- Store an item that has its identifier. -/
def store (luid : Luid) (wasUpdate : Bool) (content : Bytes) :
    Action MemoryBackend SourceError Inserted :=
  .of fun backend =>
    let backend := backend.put luid content
    (.ok { luid, revision := toString backend.writes, wasUpdate }, backend)

/-- An identifier that no item has. -/
def freshLuid : Action MemoryBackend SourceError Luid :=
  .of fun backend =>
    let taken (luid : Luid) : Action Unit SourceError Bool := pure (backend.items.contains luid)
    match backend.allocator.allocateWith taken () with
    | (result, allocator, ()) => (result, { backend with allocator })

instance : Backend MemoryBackend where
  name := name
  mimeType := mimeType
  openItems := .of fun backend =>
    match backend.failsOpen with
    | some reason => (.error (.backend backend.name reason true), backend)
    | none => (.ok (), { backend with isOpen := true, timesOpened := backend.timesOpened + 1 })
  closeItems := .alter fun backend => { backend with isOpen := false }
  list := do
    check
    return (← get).revisions
  read luid := do
    check
    let backend ← get
    if backend.failsRead.contains luid then
      throw (.backend backend.name ("cannot read " ++ luid) false)
    match backend.items.get? luid with
    | some item => return item.content
    | none => throw (.notFound luid)
  insert luid content := do
    check
    match luid with
    | some luid =>
      let backend ← get
      if backend.failsInsert.contains luid then
        throw (.invalidItem luid "rejected by backend")
      store luid (backend.items.contains luid) content
    | none => store (← freshLuid) false content
  remove luid := do
    check
    let backend ← get
    if backend.failsRemove.contains luid then
      throw (.backend backend.name ("cannot remove " ++ luid) false)
    if backend.items.contains luid then modify (discard luid) else throw (.notFound luid)

end MemoryBackend

end DataSync
