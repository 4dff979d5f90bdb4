import DataSync.Basic
import DataSync.Source.Error

/-!
# Backends

Where the items of a source really are: an address book, a calendar, a directory of files.
-/

namespace DataSync

/-- What became of an item that was stored. -/
inductive InsertState where
  /-- It is there as given. -/
  | okay
  /-- It took the place of another item. -/
  | replaced
  /-- It was combined with another item. -/
  | merged
deriving DecidableEq

/-- The name of what became of an item. -/
def InsertState.name : InsertState → String
  | okay => "Okay"
  | replaced => "Replaced"
  | merged => "Merged"

/-- An item as it was stored. -/
structure Inserted where
  luid : Luid
  revision : Revision
  wasUpdate : Bool
  state : InsertState := .okay
deriving DecidableEq

/-- A state that holds items. -/
class Backend (β : Type) where
  /-- The name by which messages refer to the source. -/
  name : β → String
  /-- The type of the items. -/
  mimeType : β → String
  /-- Get ready for access to the items. -/
  openItems : Action β SourceError Unit
  /-- End the access. -/
  closeItems : Action β SourceError Unit
  /-- The revisions of all items. -/
  list : Action β SourceError RevisionMap
  /-- The content of an item. -/
  read (luid : Luid) : Action β SourceError Bytes
  /-- Store an item under its identifier, or under a new one if none is given. -/
  insert (luid : Option Luid) (content : Bytes) : Action β SourceError Inserted
  /-- Remove an item. -/
  remove (luid : Luid) : Action β SourceError Unit

/-- Whether there are no items. -/
def Backend.isEmpty {β : Type} [Backend β] : Action β SourceError Bool := do
  return (← Backend.list (β := β)).isEmpty

end DataSync
