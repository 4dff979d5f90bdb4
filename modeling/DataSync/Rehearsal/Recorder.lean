import DataSync.Transport.Wire

/-!
# Recorders

A peer that never says anything and keeps all that it is told.
-/

namespace DataSync

/-- The octets that reached a peer, and whether no more can reach it. -/
structure Recorder where
  received : Bytes := []
  broken : Bool := false
deriving DecidableEq

instance : Peer Recorder where
  react bytes := .of fun recorder =>
    if recorder.broken then (.error (.failed (.io (.ofKind .brokenPipe))), recorder)
    else (.ok {}, { recorder with received := recorder.received ++ bytes })
  stamina _ := 0

end DataSync
