/-!
# Transport status

Where a transport stands between the messages that it carries.
-/

namespace DataSync

/-- Where a transport stands. -/
inductive TransportStatus where
  /-- Nothing is under way. -/
  | inactive
  /-- A message was handed over and is not settled yet. -/
  | active
  /-- The message was answered. -/
  | gotReply
  /-- The transfer was called off. -/
  | canceled
  /-- The transfer went wrong. -/
  | failed
  /-- The transport takes no more messages. -/
  | closed
  /-- The answer did not come in time. -/
  | timeOut
deriving DecidableEq

namespace TransportStatus

/-- The name of a status. -/
def name : TransportStatus → String
  | inactive => "Inactive"
  | active => "Active"
  | gotReply => "GotReply"
  | canceled => "Canceled"
  | failed => "Failed"
  | closed => "Closed"
  | timeOut => "TimeOut"

/-- All statuses. -/
def all : List TransportStatus :=
  [inactive, active, gotReply, canceled, failed, closed, timeOut]

/-- Whether a message can be handed over. -/
def canSend : TransportStatus → Bool
  | active | closed => false
  | _ => true

/-- Whether sending the message again may help. -/
def isRetryable : TransportStatus → Bool
  | failed | timeOut => true
  | _ => false

end TransportStatus

end DataSync
