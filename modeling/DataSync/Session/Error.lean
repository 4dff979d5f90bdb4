import DataSync.Session.Status
import DataSync.Source.Error
import DataSync.Transport.Error

/-!
# Session errors

Why a session could not start, or ended early.
-/

namespace DataSync

/-- A failure of a session. -/
inductive SyncError where
  | transport (reason : String) (retryable : Bool)
  /-- The engine met something that its protocol does not allow. -/
  | protocol (reason : String)
  | authenticationFailed (reason : String)
  | config (reason : String)
  | storage (cause : StorageError)
  | source (cause : SourceError)
  /-- There is a session of this name already. -/
  | sessionBusy (name : String)
  | aborted
  | suspended
deriving DecidableEq

namespace SyncError

/-- The failure that a failure of a transport is for the session. -/
def ofTransport (e : TransportError) : SyncError :=
  .transport e.message e.isRetryable

/-- A failure of a transport for which nothing more is tried. -/
def lostTransport (reason : String) : SyncError :=
  .transport reason false

/-- The kind of a failure in one word. -/
def kind : SyncError → String
  | transport .. => "Transport"
  | protocol _ => "Protocol"
  | authenticationFailed _ => "AuthenticationFailed"
  | config _ => "Config"
  | storage cause => cause.kind
  | source cause => cause.kind
  | sessionBusy _ => "SessionBusy"
  | aborted => "Aborted"
  | suspended => "Suspended"

/-- The text that a person reads. -/
def message : SyncError → String
  | transport reason _ => "transport error: " ++ reason
  | protocol reason => "protocol error: " ++ reason
  | authenticationFailed reason => "authentication failed: " ++ reason
  | config reason => "configuration error: " ++ reason
  | storage cause => "configuration storage: " ++ cause.message
  | source cause => "source error: " ++ cause.message
  | sessionBusy name => "session " ++ name ++ " is already running"
  | aborted => "sync aborted by user"
  | suspended => "sync suspended by user"

/-- Whether trying again may help. -/
def isRetryable : SyncError → Bool
  | transport _ retryable => retryable
  | _ => false

/-- The status of a session that ended with this failure. -/
def status : SyncError → SyncStatus
  | transport .. => .transportFailure
  | source cause => if cause.isFatal then .datastoreFailure else .fatal
  | aborted => .aborted
  | suspended => .suspended
  | authenticationFailed _ => .unauthorized
  | protocol _ | config _ | storage _ | sessionBusy _ => .fatal

end SyncError

end DataSync
