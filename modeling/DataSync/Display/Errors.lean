import DataSync.Display.Basic
import DataSync.Obex.Packet
import DataSync.Session.Error
import DataSync.Source.Mode
import DataSync.Transport.Wire

/-!
# Displays of errors

An error is shown by its kind and its text.  An error of the system is shown by its kind alone,
wherever it was met, and what exactly was wrong with an undecodable frame is not shown.
-/

namespace DataSync.Display

open Cbor (Value)

/-- A type of errors that can be displayed. -/
class Fault (ε : Type) where
  /-- The kind and the text of an error. -/
  kindAndText : ε → String × String

namespace Fault

instance : Fault IoError := ⟨fun e => ("Io", e.kind.name)⟩

/-- The kind and the text of an error with an error of the system as its cause, if it has one. -/
def causedBy (cause : Option IoError) (kind text : String) : String × String :=
  cause.elim (kind, text) kindAndText

instance : Fault StorageError := ⟨fun e => causedBy e.cause? e.kind e.message⟩

instance : Fault SourceError := ⟨fun e => causedBy e.cause? e.kind e.message⟩

/-- The text of a transport error without the details of an undecodable frame. -/
def textWithoutDetails (e : TransportError) : String :=
  let undecodable := "IPC error: decode"
  if (undecodable ++ ":").isPrefixOf e.message then undecodable else e.message

instance : Fault TransportError := ⟨fun e => causedBy e.cause? e.kind (textWithoutDetails e)⟩

instance : Fault SyncError where
  kindAndText
    | .storage cause => kindAndText cause
    | .source cause => kindAndText cause
    | e => (e.kind, e.message)

instance : Fault Obex.PacketFault := ⟨fun fault => kindAndText (TransportError.obexProtocol fault.message)⟩

instance : Fault UnknownSyncMode := ⟨fun e => ("UnknownSyncMode", e.message)⟩

end Fault

/-- An error as a record, with more fields. -/
def faultWith {ε : Type} [Fault ε] (more : List (String × Value)) (e : ε) : Value :=
  let (kind, text) := Fault.kindAndText e
  .record (("error", kind) :: ("message", text) :: more)

instance {ε : Type} [Fault ε] : Display ε := ⟨faultWith []⟩

instance : Display Interruption where
  display
    | .failed e => e
    | .stalled => .null

end DataSync.Display
