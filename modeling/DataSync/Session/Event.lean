import DataSync.Session.Engine
import DataSync.Session.Handle
import DataSync.Transport.Error
import DataSync.Transport.Status

/-!
# Events of sessions

What can be observed of a session while it runs: what it is asked to do, what the engine is told and
what it says, which messages the agent takes and how it settles them, and the pauses.
-/

namespace DataSync

/-- Something that can be observed of a session. -/
inductive SessionEvent where
  /-- The session is asked to do something that it was not asked to do before. -/
  | asked (request : SessionRequest)
  | told (input : StepInput)
  /-- The engine says what it wants, or why it cannot go on. -/
  | answered (answer : Except SyncError StepCommand)
  | accepted (message : Message)
  | refused (e : TransportError)
  /-- A transfer is over, with the answer and the error that the agent has to show for it. -/
  | settled (status : TransportStatus) (reply : Except TransportError Message)
      (error : Option TransportError)
  /-- Before a message is sent again the session pauses, unless it is asked to do something. -/
  | paused (taken : Bool)
  | gaveUp (e : SyncError)

end DataSync
