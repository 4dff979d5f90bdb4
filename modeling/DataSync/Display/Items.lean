import DataSync.Display.Basic
import DataSync.Source.Backend
import DataSync.Source.ChangeSet
import DataSync.Source.Mode

/-!
# Displays of changes and items
-/

namespace DataSync.Display

open Cbor (Value)

instance : Display SyncMode := ⟨fun mode => mode.name⟩

instance : Display ItemState := ⟨fun state => state.name⟩

instance : Display InsertState := ⟨fun state => state.name⟩

instance : Display ChangeSet where
  display changes := .record [
    ("added", changes.added), ("updated", changes.updated), ("deleted", changes.deleted),
    ("unchanged", changes.unchanged), ("len", changes.size), ("empty", changes.isEmpty)]

instance : Display Inserted where
  display inserted := .record [
    ("luid", inserted.luid), ("revision", inserted.revision),
    ("was_update", inserted.wasUpdate), ("state", inserted.state)]

end DataSync.Display
