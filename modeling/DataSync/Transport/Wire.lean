import DataSync.Basic
import DataSync.Transport.Error

/-!
# Wires

A wire is a two-way stream of octets to a peer, seen from this side.  What the peer sends waits in an
inbox until it is read.  The peer acts only when octets reach it, which is all that this side can
notice; a read that wants more than the peer has sent either meets the end of the stream or waits for
ever, and then only a deadline or a cancellation ends it.  The same goes for octets that the peer does
not take.
-/

namespace DataSync

/-- Why an operation did not give a result. -/
inductive Interruption where
  /-- It failed. -/
  | failed (e : TransportError)
  /-- It waits for something that never comes. -/
  | stalled
deriving DecidableEq

/-- What was received and not yet read, and whether the stream ends after it. -/
structure Inbox where
  unread : Bytes := []
  ended : Bool := false
deriving DecidableEq

namespace Inbox

/-- Read a number of octets.  If there are fewer, those that are there are lost, and the stream is
cut short or silent. -/
def take (count : Nat) : Action Inbox Interruption Bytes :=
  .of fun inbox =>
    if inbox.unread.length < count then
      (.error (if inbox.ended then .failed (.io .cutShort) else .stalled),
        { inbox with unread := [] })
    else (.ok (inbox.unread.take count), { inbox with unread := inbox.unread.drop count })

/-- The inbox after octets arrived, or the end of the stream. -/
def receive (bytes : Bytes) (ended : Bool) (inbox : Inbox) : Inbox :=
  ⟨inbox.unread ++ bytes, inbox.ended || ended⟩

/-- Octets that are there are read, and those after them stay. -/
theorem on_take (taken rest : Bytes) (ended : Bool) :
    (take taken.length).on { unread := taken ++ rest, ended } =
      (.ok taken, { unread := rest, ended }) := by
  simp [take]

end Inbox

/-- What a peer does when octets reach it. -/
structure Reaction where
  sent : Bytes := []
  ends : Bool := false
deriving DecidableEq

/-- A state at the other end of a wire. -/
class Peer (π : Type) where
  /-- What the peer does when octets reach it, or why they do not.  The write stalls if the peer takes
  only some of them, or none. -/
  react (bytes : Bytes) : Action π Interruption Reaction
  /-- A bound on the packets or frames that the peer still sends in the exchange under way.  A peer
  that goes on for ever is told apart from one that falls silent only by its bound. -/
  stamina : π → Nat

/-- A peer and what it sent. -/
structure Wire (π : Type) where
  peer : π
  inbox : Inbox := {}

namespace Wire

variable {π : Type} {α : Type}

/-- Send octets. -/
def send [Peer π] (bytes : Bytes) : Action (Wire π) Interruption Unit :=
  .of fun wire => match (Peer.react bytes).on wire.peer with
    | (.error e, peer) => (.error e, { wire with peer })
    | (.ok reaction, peer) =>
      (.ok (), { peer, inbox := wire.inbox.receive reaction.sent reaction.ends })

/-- Read from the inbox. -/
def reading (action : Action Inbox Interruption α) : Action (Wire π) Interruption α :=
  action.within (·.inbox) fun inbox wire => { wire with inbox }

/-- A bound on the packets or frames that can still be read in the exchange under way. -/
def patience [Peer π] (wire : Wire π) : Nat :=
  wire.inbox.unread.length + Peer.stamina wire.peer + 1

end Wire

end DataSync
