import DataSync.Http.Agent
import DataSync.Local.Message
import DataSync.Obex.Address

/-!
# Journals

Stand-ins for peers note what reaches them.  The observer is the person at the machine as a stand-in,
who answers every question in the same way.
-/

namespace DataSync

/-- Something that a stand-in noted. -/
inductive Note where
  /-- A message was handed over. -/
  | sent (message : Message)
  /-- A message was handed over to an agent that keeps no rules. -/
  | given (message : Message)
  | timeoutSet (timeout : Option Duration)
  | canceled
  | shutDown
  | waited (noReply : Bool)
  | posted (request : Http.Request)
  | discovered (device : String)
  | linked (address : Obex.Address) (channel : Option Nat)
  | packet (bytes : Bytes)
  /-- A child for a configuration was called for. -/
  | called (config : String)
  | spawned
  | killed
  | reaped
  | asked (name description : String) (key : PasswordKey)
  | saved (name password : String) (key : PasswordKey)

/-- What a stand-in noted, in order. -/
abbrev Journal := List Note

/-- A stand-in whose notes can be read. -/
class Journaled (σ : Type) where
  journal : σ → Journal := fun _ => []
  /-- The messages that reached a child. -/
  told : σ → List Local.ParentMessage := fun _ => []

/-- The person at the machine, who notes what happens there. -/
structure Observer where
  /-- Whether there is anybody to ask. -/
  isPresent : Bool := true
  password : Option String := none
  savesPasswords : Bool := false
  journal : Journal := []

namespace Observer

/-- The observer after one more note. -/
def note (entry : Note) (observer : Observer) : Observer :=
  { observer with journal := observer.journal ++ [entry] }

instance : UserInterface Observer where
  askPassword name description key observer :=
    if observer.isPresent then
      (observer.password, observer.note (.asked name description key))
    else (none, observer)
  savePassword name password key observer :=
    if observer.isPresent then
      (observer.savesPasswords, observer.note (.saved name password key))
    else (false, observer)

end Observer

end DataSync
