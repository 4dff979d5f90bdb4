import DataSync.Basic
import DataSync.Duration
import DataSync.Session.Error
import DataSync.Table

/-!
# Session handles

While a session runs it can be asked from the outside to suspend or to abort.  A request stays; an
abort is never taken back, and a first interrupt suspends while a second one right after it aborts.
Every new request calls off the transfer under way.  The registry keeps the handles of the sessions
that run, of which there is at most one with each name.
-/

namespace DataSync

/-- What a session is asked to do. -/
inductive SessionRequest where
  | none
  | suspend
  | abort
deriving DecidableEq

/-- The name of a request. -/
def SessionRequest.name : SessionRequest → String
  | none => "None"
  | suspend => "Suspend"
  | abort => "Abort"

/-- What a session was asked to do. -/
structure SessionHandle where
  request : SessionRequest := .none
  /-- The moment of the last interrupt. -/
  lastInterrupt : Option Duration := none
  /-- Whether the transfer under way shall be called off. -/
  callsOff : Bool := false
deriving DecidableEq

namespace SessionHandle

/-- The time after an interrupt in which another one aborts. -/
def abortWindow : Duration := .ofSeconds 2

/-- Ask the session to do something. -/
def ask (request : SessionRequest) (handle : SessionHandle) : SessionHandle :=
  if handle.request = .abort ∨ handle.request = request then handle
  else { handle with request, callsOff := true }

/-- Interrupt the session at a moment. -/
def interrupt (now : Duration) (handle : SessionHandle) : SessionHandle :=
  let again := handle.lastInterrupt.any fun last => now - last < abortWindow
  { handle with lastInterrupt := some now }.ask (if again then .abort else .suspend)

/-- Whether the session may sleep: it is not asked to do anything. -/
def mayRest (handle : SessionHandle) : Bool :=
  handle.request = .none

end SessionHandle

/-- The handles of the sessions that run. -/
structure Registry where
  handles : Table SessionHandle := .empty
deriving DecidableEq

namespace Registry

/-- Enter a session, unless there is one of this name. -/
def register (name : String) (handle : SessionHandle) : Action Registry SyncError Unit :=
  .of fun registry =>
    if registry.handles.contains name then (.error (.sessionBusy name), registry)
    else (.ok (), ⟨registry.handles.insert name handle⟩)

/-- Remove a session. -/
def release (name : String) (registry : Registry) : Registry :=
  ⟨registry.handles.erase name⟩

/-- The handle of a session that runs. -/
def get? (registry : Registry) (name : String) : Option SessionHandle :=
  registry.handles.get? name

/-- The names of the sessions that run. -/
def sessions (registry : Registry) : List String :=
  registry.handles.keys

end Registry

end DataSync
