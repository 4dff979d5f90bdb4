import DataSync.IoError
import DataSync.Text.Numeral
import DataSync.Transport.Status

/-!
# Transport errors

What can go wrong while a message travels to the other side and its answer back.  Some of these
failures may pass by themselves, so that sending the message again is worth while.
-/

namespace DataSync

/-- A failure of a transport. -/
inductive TransportError where
  /-- The message before is not settled yet. -/
  | busy
  /-- The transport takes no more messages. -/
  | closed
  /-- There is no address to send to. -/
  | noUrl
  | invalidUrl (url reason : String)
  /-- There is no answer to look at. -/
  | noReply (status : TransportStatus)
  /-- The HTTP exchange as such failed. -/
  | http (reason : String)
  /-- The server answered with another status than 200. -/
  | httpStatus (status : Nat) (reason : String)
  | io (cause : IoError)
  /-- The peer could not be reached. -/
  | connect (reason : String)
  /-- The peer does not tell how to reach its service. -/
  | discovery (reason : String)
  /-- The OBEX peer refused a request. -/
  | obexResponse (request : String) (code : Nat)
  /-- The OBEX peer does not follow the protocol. -/
  | obexProtocol (reason : String)
  /-- The frames between parent and child are not in order. -/
  | ipc (reason : String)
  /-- The child did not do its part. -/
  | childFailed (reason : String)
  /-- The child said why it failed. -/
  | childReport (status : Nat) (reason : String)
  /-- The answer did not come in time. -/
  | timeout
  /-- The transfer was called off. -/
  | canceled
deriving DecidableEq

namespace TransportError

/-- The kind of a failure in one word. -/
def kind : TransportError → String
  | busy => "Busy"
  | closed => "Closed"
  | noUrl => "NoUrl"
  | invalidUrl .. => "InvalidUrl"
  | noReply _ => "NoReply"
  | http _ => "Http"
  | httpStatus .. => "HttpStatus"
  | io _ => "Io"
  | connect _ => "Connect"
  | discovery _ => "Discovery"
  | obexResponse .. => "ObexResponse"
  | obexProtocol _ => "ObexProtocol"
  | ipc _ => "Ipc"
  | childFailed _ => "ChildFailed"
  | childReport .. => "ChildReport"
  | timeout => "Timeout"
  | canceled => "Canceled"

/-- The access that failed, if that is what went wrong. -/
def cause? : TransportError → Option IoError
  | io cause => some cause
  | _ => none

/-- The text that a person reads. -/
def message : TransportError → String
  | busy => "send() called while a message is in flight"
  | closed => "transport is closed"
  | noUrl => "no URL set"
  | invalidUrl url reason => "invalid URL '" ++ url ++ "': " ++ reason
  | noReply status => "no reply available (transport status " ++ status.name ++ ")"
  | http reason => "HTTP request failed: " ++ reason
  | httpStatus status reason => "HTTP status " ++ toString status ++ ": " ++ reason
  | io cause => "I/O error: " ++ cause.text
  | connect reason => "connect failed: " ++ reason
  | discovery reason => "service discovery failed: " ++ reason
  | obexResponse request code =>
    "OBEX " ++ request ++ " failed with response code 0x" ++ Text.hexOctets [UInt8.ofNat code]
  | obexProtocol reason => "OBEX protocol error: " ++ reason
  | ipc reason => "IPC error: " ++ reason
  | childFailed reason => "local sync child failed: " ++ reason
  | childReport status reason =>
    "local sync child reported status " ++ toString status ++ ": " ++ reason
  | timeout => "timed out waiting for reply"
  | canceled => "transfer canceled"

/-- Whether sending the message again may help. -/
def isRetryable : TransportError → Bool
  | http _ | io _ | connect _ | discovery _ | obexResponse .. | timeout => true
  | httpStatus status _ => 500 ≤ status
  | _ => false

end TransportError

end DataSync
