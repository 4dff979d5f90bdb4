import DataSync.Session.Status
import DataSync.Source.Error
import DataSync.Source.Mode
import DataSync.Table

/-!
# Reports

What a session did, as a whole and source by source.
-/

namespace DataSync

/-- Why an engine did not get what it wanted of an item. -/
inductive ItemStatus where
  | notFound
  | commandFailed
  | datastoreFailure
deriving DecidableEq

namespace ItemStatus

/-- The number of a status. -/
def code : ItemStatus → Nat
  | notFound => 404
  | commandFailed => 500
  | datastoreFailure => 510

/-- The text that a person reads. -/
def text (status : ItemStatus) : String :=
  toString status.code

/-- The status of an item with which an error occurred. -/
def ofError : SourceError → ItemStatus
  | .notFound _ => notFound
  | e => if e.isFatal then datastoreFailure else commandFailed

end ItemStatus

/-- Numbers of changed items. -/
structure ChangeCounts where
  added : Nat := 0
  updated : Nat := 0
  deleted : Nat := 0
deriving DecidableEq

/-- The number of all changed items. -/
def ChangeCounts.total (counts : ChangeCounts) : Nat :=
  counts.added + counts.updated + counts.deleted

/-- An item with which an error occurred; one that was to be added has no identifier. -/
structure ItemError where
  luid : Option Luid
  status : ItemStatus
  message : String
deriving DecidableEq

/-- What a session did to a source. -/
structure SourceReport where
  name : String
  mode : SyncMode
  localChanges : ChangeCounts := {}
  remoteChanges : ChangeCounts := {}
  itemsSent : Nat := 0
  itemErrors : List ItemError := []
  committed : Bool := false
  status : SyncStatus := .ok
  error : Option String := none
deriving DecidableEq

/-- The report of a source that failed; only the first failure is kept. -/
def SourceReport.fail (status : SyncStatus) (error : String) (report : SourceReport) :
    SourceReport :=
  if report.status.isSuccess then { report with status, error := some error } else report

/-- The report of a source that cannot be used any more because its data store failed. -/
def SourceReport.failStore (error : String) (report : SourceReport) : SourceReport :=
  report.fail .datastoreFailure error

/-- What a session did. -/
structure SyncReport where
  config : String
  status : SyncStatus := .ok
  error : Option String := none
  sources : Table SourceReport := .empty
  /-- The messages that the agent took, each resending counted. -/
  messagesSent : Nat := 0
  retries : Nat := 0
deriving DecidableEq

namespace SyncReport

/-- Whether the session and all its sources went well. -/
def isSuccess (report : SyncReport) : Bool :=
  report.status.isSuccess && report.sources.entries.all (·.2.status.isSuccess)

/-- The number of items with which errors occurred. -/
def itemErrorCount (report : SyncReport) : Nat :=
  (report.sources.entries.flatMap (·.2.itemErrors)).length

end SyncReport

end DataSync
