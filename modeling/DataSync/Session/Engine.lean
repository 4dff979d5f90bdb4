import DataSync.Session.Report
import DataSync.Session.Error
import DataSync.Source.Backend
import DataSync.Source.ChangeSet
import DataSync.Transport.Message

/-!
# Engines

An engine speaks a synchronization protocol.  It is told what happened, works on the items of the
sources, and says what to do next: send a message or end the session.  Its work is an `ItemProgram`,
which reaches items only by reading, inserting and deleting them; what happens around the session
while the engine works is a part of the program, so that it can happen at any point of it.
-/

namespace DataSync

/-- What an engine is told about the session. -/
structure SessionInfo where
  config : String
  url : String
  username : String
  password : String
  contentType : String
deriving DecidableEq

/-- A source that takes part in the session, with what changed in it. -/
structure SourceOffer where
  name : String
  mode : SyncMode
  mimeType : String
  changes : ChangeSet

/-- What happened before a step. -/
inductive StepInput where
  | start
  | reply (message : Message)
  /-- The message that needs no reply was sent. -/
  | sent
  /-- The session shall be suspended. -/
  | suspend
  /-- The session shall be aborted. -/
  | abort
deriving DecidableEq

/-- How an engine ends a session. -/
inductive SessionEnd where
  | success
  | failed (status : SyncStatus) (reason : String)
  | suspended
  | aborted
deriving DecidableEq

/-- The status of a session that ended. -/
def SessionEnd.status : SessionEnd → SyncStatus
  | success => .ok
  | failed status _ => status
  | suspended => .suspended
  | aborted => .aborted

/-- What to do after a step. -/
inductive StepCommand where
  | send (message : Message) (expectsReply : Bool)
  | finish (ending : SessionEnd)
deriving DecidableEq

/-- Work on the items of sources that gives an `α`, with `η` for what happens around the session. -/
inductive ItemProgram (η α : Type) where
  | pure (result : α)
  | read (source : String) (luid : Luid) (next : Except ItemStatus Bytes → ItemProgram η α)
  | insert (source : String) (luid : Option Luid) (content : Bytes)
      (next : Except ItemStatus Inserted → ItemProgram η α)
  | delete (source : String) (luid : Luid) (next : Except ItemStatus Unit → ItemProgram η α)
  /-- Something happens around the session. -/
  | meanwhile (happening : η) (next : ItemProgram η α)

namespace ItemProgram

variable {η α β : Type}

/-- The work after which more work is done with its result. -/
def bind : ItemProgram η α → (α → ItemProgram η β) → ItemProgram η β
  | pure result, more => more result
  | read source luid next, more => read source luid fun answer => (next answer).bind more
  | insert source luid content next, more =>
    insert source luid content fun answer => (next answer).bind more
  | delete source luid next, more => delete source luid fun answer => (next answer).bind more
  | meanwhile happening next, more => meanwhile happening (next.bind more)

instance : Monad (ItemProgram η) where
  pure := pure
  bind := bind

/-- Read an item. -/
def readItem (source : String) (luid : Luid) : ItemProgram η (Except ItemStatus Bytes) :=
  read source luid pure

/-- Store an item, a new one if no identifier is given. -/
def insertItem (source : String) (luid : Option Luid) (content : Bytes) :
    ItemProgram η (Except ItemStatus Inserted) :=
  insert source luid content pure

/-- Remove an item. -/
def deleteItem (source : String) (luid : Luid) : ItemProgram η (Except ItemStatus Unit) :=
  delete source luid pure

end ItemProgram

/-- A state that speaks a protocol, with `η` for what may happen around the session meanwhile. -/
class Engine (χ η : Type) where
  /-- Learn about the session and the sources in it. -/
  begin (session : SessionInfo) (offers : List SourceOffer) : Action χ SyncError Unit
  /-- Go on with what happened. -/
  step (input : StepInput) (engine : χ) : ItemProgram η (Except SyncError StepCommand × χ)

end DataSync
