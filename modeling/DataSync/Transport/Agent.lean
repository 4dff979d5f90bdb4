import DataSync.Duration
import DataSync.Transport.Message
import DataSync.Transport.Wire

/-!
# Transport agents

A transport agent takes one message at a time, waits for the other side to settle it, and keeps the
answer.  It can be called off at any moment, from the outside too, by a request that it notices the
next time it waits.  `AgentCore` is what agents have in common whatever they talk to: settings, status,
answer and error, the request to call off, and the time that passed while they waited.
-/

namespace DataSync

/-- A state that carries messages to another side. -/
class Agent (α : Type) where
  /-- Say where the other side is. -/
  setUrl (url : String) : Action α TransportError Unit
  /-- Say which proxy to use; an empty text means none. -/
  setProxy (proxy : String) : α → α
  /-- Say who the proxy shall be told to be asked by. -/
  setProxyAuth (user password : String) : α → α
  /-- Say of what type the next messages are. -/
  setContentType (contentType : String) : α → α
  /-- Say how long the next messages may take; nothing or zero means for ever. -/
  setTimeout (timeout : Option Duration) : α → α
  /-- Hand over a message. -/
  send (data : Bytes) : Action α TransportError Unit
  /-- Call off the message under way. -/
  cancel : α → α
  /-- Take no more messages. -/
  shutdown : α → α
  /-- Wait until the message under way is settled, with its answer unless none is wanted. -/
  wait (noReply : Bool) : StateM α TransportStatus
  /-- The answer to the last message. -/
  reply : α → Except TransportError Message
  status : α → TransportStatus
  lastError : α → Option TransportError
  /-- Whether there is a request to call off. -/
  isCancelRequested : α → Bool
  /-- Make or take back a request to call off. -/
  requestCancel (request : Bool) : α → α
  /-- The time that passed while the agent waited, since it was made. -/
  waited : α → Duration

/-- How a transfer ended. -/
inductive Outcome (α : Type) where
  | completed (result : α)
  | failed (e : TransportError)
  | canceled
  | timedOut

/-- Whether a transfer was done to its end. -/
def Outcome.isCompleted {α : Type} : Outcome α → Bool
  | completed _ => true
  | _ => false

/-- What agents have in common. -/
structure AgentCore where
  url : Option String := none
  contentType : String := ContentType.xml
  timeout : Option Duration := none
  /-- The time that the message under way may take. -/
  deadline : Option Duration := none
  status : TransportStatus := .inactive
  reply : Option Message := none
  lastError : Option TransportError := none
  cancelRequested : Bool := false
  waited : Duration := 0
deriving DecidableEq

namespace AgentCore

variable {σ α : Type}

/-- The core with a time that the next messages may take. -/
def setTimeout (timeout : Option Duration) (core : AgentCore) : AgentCore :=
  { core with timeout := timeout.filter (· ≠ 0) }

/-- The core with a message under way, unless it cannot take one now. -/
def beginSend (needsUrl : Bool) (core : AgentCore) : Except TransportError AgentCore :=
  match core.status with
  | .closed => .error .closed
  | .active => .error .busy
  | _ =>
    if needsUrl && core.url.isNone then .error .noUrl
    else .ok { core with
      cancelRequested := false, reply := none, lastError := none,
      deadline := core.timeout, status := .active }

/-- The core after the message under way was called off. -/
def canceled (core : AgentCore) : AgentCore :=
  { core with cancelRequested := true, status := .canceled }

/-- The core that takes no more messages. -/
def closed (core : AgentCore) : AgentCore :=
  { core with status := .closed, reply := none }

/-- The answer to the last message. -/
def answer (core : AgentCore) : Except TransportError Message :=
  match core.status, core.reply with
  | .gotReply, some reply => .ok reply
  | status, _ => .error (.noReply status)

/-- Do a transfer.  A request to call off that is there already keeps it from starting; one that
waits for ever ends with the deadline, and without one only by being called off. -/
def drive (core : AgentCore) (transfer : Action σ Interruption α) (s : σ) :
    Outcome α × Duration × σ :=
  if core.cancelRequested then (.canceled, 0, s)
  else match transfer.on s with
    | (.ok result, s) => (.completed result, 0, s)
    | (.error (.failed .canceled), s) => (.canceled, 0, s)
    | (.error (.failed .timeout), s) => (.timedOut, 0, s)
    | (.error (.failed e), s) => (.failed e, 0, s)
    | (.error .stalled, s) =>
      match core.deadline with
      | some limit => (.timedOut, limit, s)
      | none => (.canceled, 0, s)

/-- The core after a transfer ended. -/
def finish (outcome : Outcome (Option Message)) (core : AgentCore) : AgentCore :=
  match outcome with
  | .completed (some reply) => { core with reply := some reply, status := .gotReply }
  | .completed none => { core with status := .inactive }
  | .failed e => { core with lastError := some e, status := .failed }
  | .canceled => { core with status := .canceled }
  | .timedOut => { core with lastError := some .timeout, status := .timeOut }

/-- The core after time passed. -/
def elapse (time : Duration) (core : AgentCore) : AgentCore :=
  { core with waited := core.waited + time }

end AgentCore

end DataSync
