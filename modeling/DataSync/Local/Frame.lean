import DataSync.Local.Message
import DataSync.Transport.Wire

/-!
# Frames

Parent and child exchange their messages as frames: the length of the written message in four octets,
and the message.
-/

namespace DataSync.Local

/-- The octets that a written message may have. -/
def frameLimit : Nat := 64 * 1024 * 1024

/-- A type of messages that travel in frames. -/
class Framed (μ : Type) where
  /-- The message as a value. -/
  toValue : μ → Cbor.Value
  /-- The message that octets are. -/
  decode? : Bytes → Option μ

instance : Framed ParentMessage := ⟨ParentMessage.toValue, ParentMessage.decode?⟩

instance : Framed ChildMessage := ⟨ChildMessage.toValue, ChildMessage.decode?⟩

/-- The failure of frames that are not in order. -/
def disorder (reason : String) : Interruption :=
  .failed (.ipc reason)

/-- A frame that is too large. -/
def oversize (length : Nat) : String :=
  "frame of " ++ toString length ++ " bytes too large"

namespace Frame

variable {μ : Type} [Framed μ]

/-- The frame of a message. -/
def encode (message : μ) : Except TransportError Bytes :=
  let payload := Cbor.write (Framed.toValue message)
  if payload.length ≤ frameLimit then .ok (Bytes.ofLong payload.length ++ payload)
  else .error (.ipc (oversize payload.length))

/-- The length in front of the next frame, unless the stream ends before it is complete. -/
def receiveLength : Action Inbox Interruption (Option Nat) :=
  .of fun inbox =>
    if inbox.unread.length < 4 then
      (if inbox.ended then .ok none else .error .stalled, { inbox with unread := [] })
    else
      (.ok (some (Bytes.toNat (inbox.unread.take 4))), { inbox with unread := inbox.unread.drop 4 })

/-- Read the next frame of a stream, or nothing at its end.  What comes after the message in its
frame is not looked at. -/
def receive : Action Inbox Interruption (Option μ) := do
  match ← receiveLength with
  | none => return none
  | some length =>
    if length > frameLimit then throw (disorder (oversize length))
    match Framed.decode? (← Inbox.take length) with
    | some message => return some message
    | none => throw (disorder "decode: malformed message")

/-- Send a message. -/
def send {π : Type} [Peer π] (message : μ) : Action (Wire π) Interruption Unit :=
  match encode message with
  | .ok bytes => Wire.send bytes
  | .error e => throw (.failed e)

end Frame

end DataSync.Local
