import DataSync.Text.Blank

/-!
# Synchronization modes

In which direction the items of a source travel, and whether one side is wiped first.
-/

namespace DataSync

/-- The ways to synchronize a source. -/
inductive SyncMode where
  | twoWay
  | slow
  | refreshFromLocal
  | refreshFromRemote
  | oneWayFromLocal
  | oneWayFromRemote
  | disabled
deriving DecidableEq

/-- A text that names no mode. -/
structure UnknownSyncMode where
  text : String
deriving DecidableEq

/-- The text that a person reads. -/
def UnknownSyncMode.message (e : UnknownSyncMode) : String :=
  "unknown sync mode '" ++ e.text ++ "'"

namespace SyncMode

/-- The name of a mode in configurations. -/
def name : SyncMode → String
  | twoWay => "two-way"
  | slow => "slow"
  | refreshFromLocal => "refresh-from-local"
  | refreshFromRemote => "refresh-from-remote"
  | oneWayFromLocal => "one-way-from-local"
  | oneWayFromRemote => "one-way-from-remote"
  | disabled => "disabled"

/-- The mode that a name stands for, in any case and with blanks around it.  The side where the
program runs may also be called the client and the other one the server. -/
def ofName? (text : String) : Except UnknownSyncMode SyncMode :=
  match Text.lowerAscii (Text.trim text) with
  | "two-way" | "twoway" => .ok twoWay
  | "slow" => .ok slow
  | "refresh-from-local" | "refresh-from-client" => .ok refreshFromLocal
  | "refresh-from-remote" | "refresh-from-server" => .ok refreshFromRemote
  | "one-way-from-local" | "one-way-from-client" => .ok oneWayFromLocal
  | "one-way-from-remote" | "one-way-from-server" => .ok oneWayFromRemote
  | "disabled" | "none" => .ok disabled
  | _ => .error ⟨text⟩

/-- The mode as the other side sees it. -/
def inverted : SyncMode → SyncMode
  | refreshFromLocal => refreshFromRemote
  | refreshFromRemote => refreshFromLocal
  | oneWayFromLocal => oneWayFromRemote
  | oneWayFromRemote => oneWayFromLocal
  | mode => mode

/-- Whether all items are sent, changed or not. -/
def sendsAllItems : SyncMode → Bool
  | slow | refreshFromLocal => true
  | _ => false

/-- Whether the items here are deleted first. -/
def wipesItems : SyncMode → Bool
  | refreshFromRemote => true
  | _ => false

/-- Whether changes made here are sent. -/
def sendsChanges : SyncMode → Bool
  | refreshFromRemote | oneWayFromRemote | disabled => false
  | _ => true

/-- Whether the source takes part at all. -/
def isEnabled : SyncMode → Bool
  | disabled => false
  | _ => true

end SyncMode

end DataSync
