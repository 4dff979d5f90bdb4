import DataSync.Session.Engine
import DataSync.Session.Surroundings

/-!
# Items of a session

The accesses of an engine to items, over the sources of a session and their reports.  An access goes
to the one source that it names and is counted in the report of this source.  A source that takes no
part, or whose data store failed, is not touched; an item with which an error occurred is reported
and stays changed for the next session.
-/

namespace DataSync

/-- The sources of a session and their reports. -/
structure SessionItems (β ν : Type) where
  sources : List (Source β ν)
  reports : Table SourceReport := .empty

namespace SessionItems

variable {β ν : Type} [Backend β] [PropertyNode ν] {α : Type}

/-- The first source of a name, with the sources before and after it. -/
def split? (name : String) : List (Source β ν) →
    Option (List (Source β ν) × Source β ν × List (Source β ν))
  | [] => none
  | source :: rest =>
    if source.name = name then some ([], source, rest)
    else (split? name rest).map fun (before, found, after) => (source :: before, found, after)

/-- The source after an error, and its report: a failure of the data store is one of the source as a
whole, any other one of the item. -/
def noteError (luid : Option Luid) (e : SourceError) (source : Source β ν)
    (report : SourceReport) : Source β ν × SourceReport :=
  let itemError : ItemError := ⟨luid, ItemStatus.ofError e, e.message⟩
  let report := { report with itemErrors := report.itemErrors ++ [itemError] }
  if e.isFatal then (source, report.failStore e.message)
  else match luid with
    | some luid => (source.recordFailure luid, report)
    | none => (source, report)

/-- The report of a source that can be accessed. -/
def accessible (name : String) (items : SessionItems β ν) : Except ItemStatus SourceReport :=
  match items.reports.get? name with
  | none => .error .notFound
  | some report =>
    if report.status.isSuccess && report.mode.isEnabled then .ok report
    else .error .datastoreFailure

/-- An access to the source of a name; `count` is how the report counts a success and `failing` what
an error does. -/
def access (name : String) (operation : Action (Source β ν) SourceError α)
    (count : α → SourceReport → SourceReport)
    (failing : SourceError → Source β ν → SourceReport → Source β ν × SourceReport) :
    Action (SessionItems β ν) ItemStatus α :=
  .of fun items =>
    match items.accessible name with
    | .error status => (.error status, items)
    | .ok report =>
      match split? name items.sources with
      | none => (.error .notFound, items)
      | some (before, source, after) =>
        let keep (source : Source β ν) (report : SourceReport) : SessionItems β ν :=
          { sources := before ++ source :: after, reports := items.reports.insert name report }
        match operation.on source with
        | (.ok result, source) => (.ok result, keep source (count result report))
        | (.error e, source) =>
          let (source, report) := failing e source report
          (.error (ItemStatus.ofError e), keep source report)

/-- The report with one more item sent. -/
def countSent (report : SourceReport) : SourceReport :=
  { report with itemsSent := report.itemsSent + 1 }

/-- The report with one more item stored. -/
def countStored (luid : Option Luid) (inserted : Inserted) (report : SourceReport) : SourceReport :=
  let counts := report.remoteChanges
  let counts := if luid.isSome || inserted.wasUpdate then { counts with updated := counts.updated + 1 }
    else { counts with added := counts.added + 1 }
  { report with remoteChanges := counts }

/-- The report with one more item removed. -/
def countRemoved (report : SourceReport) : SourceReport :=
  let counts := report.remoteChanges
  { report with remoteChanges := { counts with deleted := counts.deleted + 1 } }

/-- What the failure to remove an item does: one that is gone already is reported, but does not count
as failed. -/
def noteUnremoved (luid : Luid) (e : SourceError) (source : Source β ν) (report : SourceReport) :
    Source β ν × SourceReport :=
  match e with
  | .notFound _ =>
    let itemError : ItemError := ⟨some luid, .notFound, (SourceError.notFound luid).message⟩
    (source, { report with itemErrors := report.itemErrors ++ [itemError] })
  | e => noteError (some luid) e source report

/-- Read an item. -/
def readItem (name : String) (luid : Luid) : Action (SessionItems β ν) ItemStatus Bytes :=
  access name (Source.readItem luid) (fun _ => countSent) (noteError (some luid))

/-- Store an item, a new one if no identifier is given. -/
def insertItem (name : String) (luid : Option Luid) (content : Bytes) :
    Action (SessionItems β ν) ItemStatus Inserted :=
  access name (Source.insertItem luid content) (countStored luid) (noteError luid)

/-- Remove an item. -/
def deleteItem (name : String) (luid : Luid) : Action (SessionItems β ν) ItemStatus Unit :=
  access name (Source.deleteItem luid) (fun _ => countRemoved) (noteUnremoved luid)

/-- The items after a change of a source from the outside. -/
def disturb (change : Disturbance β ν) (items : SessionItems β ν) : SessionItems β ν :=
  { items with sources := items.sources.modify change.position change.apply }

end SessionItems

end DataSync
