/-!
# Session status

How a session, or one source in it, ended, with the numbers that protocols use for it.
-/

namespace DataSync

/-- How a session ended. -/
inductive SyncStatus where
  | ok
  | unauthorized
  | fatal
  | datastoreFailure
  | aborted
  | suspended
  | transportFailure
deriving DecidableEq

namespace SyncStatus

/-- The number of a status. -/
def code : SyncStatus → Nat
  | ok => 0
  | unauthorized => 401
  | fatal => 500
  | datastoreFailure => 510
  | aborted => 20017
  | suspended => 20036
  | transportFailure => 20043

/-- The status with a number; one that is not known is a failure without a better name. -/
def ofCode : Nat → SyncStatus
  | 0 | 200 => ok
  | 401 | 407 => unauthorized
  | 510 => datastoreFailure
  | 20017 => aborted
  | 20036 => suspended
  | 20043 => transportFailure
  | _ => fatal

/-- The words for a status. -/
def words : SyncStatus → String
  | ok => "ok"
  | unauthorized => "unauthorized"
  | fatal => "fatal error"
  | datastoreFailure => "data store failure"
  | aborted => "aborted"
  | suspended => "suspended"
  | transportFailure => "transport failure"

/-- The text that a person reads. -/
def text (status : SyncStatus) : String :=
  status.words ++ " (" ++ toString status.code ++ ")"

/-- Whether all went well. -/
def isSuccess (status : SyncStatus) : Bool :=
  status = ok

theorem ofCode_code (status : SyncStatus) : ofCode status.code = status := by
  cases status <;> rfl

end SyncStatus

end DataSync
