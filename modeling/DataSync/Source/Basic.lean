import DataSync.Source.Backend
import DataSync.Source.ChangeSet
import DataSync.Source.Mode
import DataSync.Storage.Node

/-!
# Sources

A source is a backend as one session after the other sees it.  A session begins by comparing the
items with the revisions that the last committed session left in a node, then reads and writes items,
and ends by committing the revisions as they are now.  Items that failed are committed as they were
before, so that the next session finds them changed again.  After a failure of the source as a whole
nothing is touched any more and nothing is committed.
-/

namespace DataSync

/-- What a source knows about earlier sessions: the node with the committed revisions, these
revisions as loaded at the start, and the items that failed in this session. -/
structure Tracking (ν : Type) where
  node : ν
  previous : RevisionMap := .empty
  failed : LuidSet := .empty

/-- A backend, what is known about earlier sessions, and the state of the session. -/
structure Source (β ν : Type) where
  backend : β
  tracking : Option (Tracking ν) := none
  mode : SyncMode := .twoWay
  current : RevisionMap := .empty
  isOpen : Bool := false
  failure : Option String := none

/-! ## Committed revisions -/

namespace RevisionStore

variable {ν : Type} [PropertyNode ν]

/-- The revisions in a node. -/
def load (node : ν) : Except SourceError RevisionMap :=
  (PropertyNode.read node).mapError .storage

/-- Put revisions into a node. -/
def save (revisions : RevisionMap) : Action ν SourceError Unit :=
  Action.mapError .storage do
    PropertyNode.replaceAll revisions
    PropertyNode.flush

end RevisionStore

/-- The revisions to commit when the current ones are given: those of failed items are the previous
ones. -/
def Tracking.commitMap {ν : Type} (tracking : Tracking ν) (current : RevisionMap) : RevisionMap :=
  tracking.failed.keys.foldl
    (fun revisions luid => match tracking.previous.get? luid with
      | some revision => revisions.insert luid revision
      | none => revisions.erase luid)
    current

namespace Source

variable {β ν : Type} [Backend β] [PropertyNode ν] {α : Type}

/-- The name of a source. -/
def name (source : Source β ν) : String :=
  Backend.name source.backend

/-- The type of the items of a source. -/
def mimeType (source : Source β ν) : String :=
  Backend.mimeType source.backend

/-! ## Failures -/

/-- The source after a failure as a whole. -/
def fail (reason : String) (source : Source β ν) : Source β ν :=
  { source with failure := some reason }

/-- The source after an error: a failure as a whole is kept unless there is one already. -/
def note (e : SourceError) (source : Source β ν) : Source β ν :=
  if e.isFatal && source.failure.isNone then source.fail e.message else source

/-- The operation after whose errors the source is noted to have failed. -/
def noting (action : Action (Source β ν) SourceError α) : Action (Source β ν) SourceError α :=
  .of fun source => match action.on source with
    | (.ok a, source) => (.ok a, source)
    | (.error e, source) => (.error e, source.note e)

/-- The source in which an item failed. -/
def recordFailure (luid : Luid) (source : Source β ν) : Source β ν :=
  { source with
    tracking := source.tracking.map fun tracking =>
      { tracking with failed := tracking.failed.insert luid () } }

/-! ## The start of a session -/

/-- An access to the backend. -/
def onBackend (action : Action β SourceError α) : Action (Source β ν) SourceError α :=
  action.within (·.backend) fun backend source => { source with backend }

/-- Load the revisions of the last committed session. -/
def loadPrevious : Action (Source β ν) SourceError Unit :=
  .of fun source => match source.tracking with
    | none => (.ok (), source)
    | some tracking =>
      match RevisionStore.load tracking.node with
      | .error e => (.error e, source)
      | .ok previous => (.ok (), { source with tracking := some { tracking with previous } })

/-- Remove items, of which some may be gone already. -/
def wipe : List Luid → Action β SourceError Unit
  | [] => pure ()
  | luid :: rest =>
    .of fun backend => match (Backend.remove luid).on backend with
      | (.ok (), backend) => (wipe rest).on backend
      | (.error (.notFound _), backend) => (wipe rest).on backend
      | (.error e, backend) => (.error e, backend)

/-- The changes since the revisions that were loaded. -/
def changes (source : Source β ν) : ChangeSet :=
  match source.tracking with
  | some tracking =>
    if source.mode.sendsAllItems then .allAdded source.current
    else .between source.current tracking.previous
  | none => .allAdded source.current

/-- Open the backend and find out what changed. -/
def detectChanges : Action (Source β ν) SourceError ChangeSet := do
  onBackend Backend.openItems
  modify fun source => { source with isOpen := true }
  loadPrevious
  let revisions ← onBackend Backend.list
  if (← get).mode.wipesItems then
    onBackend (wipe revisions.keys)
    return .empty
  else
    modify fun source => { source with current := revisions }
    return (← get).changes

/-- The source with nothing left from the session before. -/
def cleared (mode : SyncMode) (source : Source β ν) : Source β ν :=
  { source with
    mode, current := .empty, failure := none,
    tracking := source.tracking.map fun tracking => { tracking with failed := .empty } }

/-- Begin a session and give the changes since the last committed one.  A disabled source stays
closed and has no changes. -/
def beginSync (mode : SyncMode) : Action (Source β ν) SourceError ChangeSet := do
  modify (cleared mode)
  if mode.isEnabled then noting detectChanges else return .empty

/-! ## Items -/

/-- The source can be used. -/
def check : Action (Source β ν) SourceError Unit :=
  .of fun source => match source.failure with
    | some reason => (.error (.backend source.name reason true), source)
    | none => (if source.isOpen then .ok () else .error (.notOpen source.name), source)

/-- The content of an item. -/
def readItem (luid : Luid) : Action (Source β ν) SourceError Bytes := do
  check
  noting (onBackend (Backend.read luid))

/-- The result of adding an item, which may have hit one that is there. -/
def asAdded (current : RevisionMap) (inserted : Inserted) : Inserted :=
  if current.contains inserted.luid then
    { inserted with
      wasUpdate := true
      state := if inserted.state = .okay then .replaced else inserted.state }
  else inserted

/-- Store an item, a new one if no identifier is given. -/
def insertItem (luid : Option Luid) (content : Bytes) :
    Action (Source β ν) SourceError Inserted := do
  check
  let inserted ← noting (onBackend (Backend.insert luid content))
  let current := (← get).current
  let (inserted, current) := match luid with
    | none => (asAdded current inserted, current)
    | some requested =>
      (inserted, if requested = inserted.luid then current else current.erase requested)
  modify fun source =>
    { source with current := current.insert inserted.luid inserted.revision }
  return inserted

/-- Remove an item.  One that is gone already is forgotten, too. -/
def deleteItem (luid : Luid) : Action (Source β ν) SourceError Unit := do
  check
  noting <| .of fun source =>
    let forget (source : Source β ν) := { source with current := source.current.erase luid }
    match (onBackend (Backend.remove luid)).on source with
    | (.ok (), source) => (.ok (), forget source)
    | (.error (.notFound missing), source) => (.error (.notFound missing), forget source)
    | (.error e, source) => (.error e, source)

/-! ## The end of a session -/

/-- Commit the current revisions if the source keeps any.  The answer is whether it does. -/
def commit : Action (Source β ν) SourceError Bool :=
  .of fun source => match source.tracking with
    | none => (.ok false, source)
    | some tracking =>
      let revisions := tracking.commitMap source.current
      match (RevisionStore.save revisions).on tracking.node with
      | (.error e, node) => (.error e, { source with tracking := some { tracking with node } })
      | (.ok (), node) =>
        (.ok true, { source with tracking := some { tracking with node, previous := revisions } })

/-- Close the backend if it is open. -/
def closeBackend : Action (Source β ν) SourceError Unit :=
  .of fun source =>
    if source.isOpen then (onBackend Backend.closeItems).on { source with isOpen := false }
    else (.ok (), source)

/-- End a session, and commit the revisions if it was a success and the source did not fail.  The
answer is whether revisions were committed. -/
def endSync (success : Bool) : Action (Source β ν) SourceError Bool :=
  .of fun source =>
    let toCommit := success && source.failure.isNone && source.isOpen
    let (saved, source) := if toCommit then commit.on source else (.ok false, source)
    let (closed, source) := closeBackend.on source
    match saved, closed with
    | .error e, _ => (.error e, source.note e)
    | .ok _, .error e => (.error e, source)
    | .ok committed, .ok () => (.ok committed, source)

end Source

end DataSync
