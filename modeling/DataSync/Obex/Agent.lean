import DataSync.Obex.Address
import DataSync.Obex.Session
import DataSync.Transport.Agent

/-!
# The OBEX agent

Messages are put to an OBEX peer, over Bluetooth or TCP, and their answers fetched from it.  The
connection is made with the first message and used for the following ones.  After anything that left
it in an unknown state it is dropped without a word, and the next message makes a new one.
-/

namespace DataSync.Obex

/-- How far the agent is with a connection. -/
inductive ConnectState where
  | start
  | discoveryStart
  | discovering
  | discovered
  | addressReady
  | linking
  | connecting
  | connectAnswered
  | connected
  | ended
deriving DecidableEq

/-- The name of a state. -/
def ConnectState.name : ConnectState → String
  | start => "Start"
  | discoveryStart => "SdpStart"
  | discovering => "SdpReq"
  | discovered => "SdpDone"
  | addressReady => "AddrReady"
  | linking => "Init0"
  | connecting => "Init1"
  | connectAnswered => "Init2"
  | connected => "Connected"
  | ended => "End"

/-- Peers within reach: their channels can be asked for, and they can be linked to.  The octets that
reach the state as a `Peer` are those of the link made last. -/
class Reach (π : Type) extends Peer π where
  /-- The channel of the service on a Bluetooth device. -/
  discover (device : String) : Action π Interruption Nat
  /-- Link to an address; the answer is what the peer says first. -/
  link (address : Address) (channel : Option Nat) : Action π Interruption Reaction

/-- A connection: what was agreed on, and what was received and not yet read. -/
structure Connection where
  terms : Terms
  inbox : Inbox
deriving DecidableEq

/-- Peers within reach, and the connection to one of them. -/
structure Link (π : Type) where
  reach : π
  state : ConnectState := .start
  connection : Option Connection := none

/-- The service that connections are made to. -/
def service : Bytes := Bytes.ofText "SYNCML-SYNC"

/-- The size of the packets that this side accepts. -/
def localMaxPacket : UInt16 := 0x2000

/-- The request for a connection. -/
def connectRequest : Packet :=
  { Packet.connecting localMaxPacket with headers := [.target service] }

/-- The terms of a connection, given the response to its request. -/
def Terms.ofResponse (reply : Packet) : Terms :=
  let offered := reply.connect.elim minPacketSize (·.maxPacket.toNat)
  { connectionId := reply.connectionId?
    maxPacket := min (max offered minPacketSize) localMaxPacket.toNat }

namespace Link

variable {π : Type} {α : Type}

/-- The link without a connection. -/
def reset (link : Link π) : Link π :=
  { link with state := .start, connection := none }

/-- Note how far the connection is. -/
def enter (state : ConnectState) : Action (Link π) Interruption Unit :=
  .alter fun link => { link with state }

/-- An operation on the peers within reach. -/
def reaching (action : Action π Interruption α) : Action (Link π) Interruption α :=
  action.within (·.reach) fun reach link => { link with reach }

/-- An operation on the wire of a connection, whose inbox is kept with it. -/
def onWire (inbox : Inbox) (action : Action (Wire π) Interruption α) :
    Action (Link π) Interruption (α × Inbox) :=
  .of fun link => match action.on { peer := link.reach, inbox } with
    | (.ok a, wire) => (.ok (a, wire.inbox), { link with reach := wire.peer })
    | (.error e, wire) => (.error e, { link with reach := wire.peer })

/-- The channel to link to. -/
def channelOf [Reach π] : Address → Action (Link π) Interruption (Option Nat)
  | .bluetooth device none => do
    enter .discoveryStart
    enter .discovering
    let channel ← reaching (Reach.discover device)
    enter .discovered
    return some channel
  | .bluetooth _ (some channel) => return some channel
  | .tcp _ _ => return none

/-- Make a connection. -/
def connect [Reach π] (address : Address) : Action (Link π) Interruption Connection := do
  enter .start
  let channel ← channelOf address
  enter .addressReady
  enter .linking
  let greeting ← reaching (Reach.link address channel)
  enter .connecting
  let (reply, inbox) ← onWire (Inbox.receive greeting.sent greeting.ends {}) do
    connectRequest.send
    Wire.reading (Packet.receive true)
  enter .connectAnswered
  if !reply.isSuccess then throw (refused "CONNECT" reply.code)
  let connection : Connection := { terms := Terms.ofResponse reply, inbox }
  modify fun link => { link with connection := some connection }
  enter .connected
  return connection

/-- Put a message to the peer and get its answer if one is wanted, over the connection that is there
or a new one. -/
def exchange [Reach π] (address : Address) (message : Message) (noReply : Bool) :
    Action (Link π) Interruption (Option Message) := do
  let connection ← match (← get).connection with
    | some connection => pure connection
    | none => connect address
  let (answer, inbox) ← onWire connection.inbox do
    put connection.terms message
    if noReply then return none
    else return some (← fetch connection.terms message.contentType)
  modify fun link => { link with connection := some { connection with inbox } }
  return answer

/-- The link after the peer was told that the connection ends. -/
def leave [Reach π] (link : Link π) : Link π :=
  match link.connection with
  | none => link.reset
  | some connection =>
    ((onWire connection.inbox (disconnect connection.terms)).stateAfter link).reset

end Link

/-- An agent that puts messages to an OBEX peer. -/
structure ObexAgent (π : Type) where
  link : Link π
  core : AgentCore := {}
  address : Option Address := none
  pending : Option Message := none

namespace ObexAgent

variable {π : Type} [Reach π]

instance : Agent (ObexAgent π) where
  setUrl url := .of fun agent =>
    match Address.parse url with
    | .error e => (.error e, agent)
    | .ok address =>
      let link := if agent.address = some address then agent.link else agent.link.reset
      (.ok (), { agent with
        link, address := some address, core := { agent.core with url := some url } })
  setProxy _ agent := agent
  setProxyAuth _ _ agent := agent
  setContentType contentType agent := { agent with core := { agent.core with contentType } }
  setTimeout timeout agent := { agent with core := agent.core.setTimeout timeout }
  send data := .of fun agent =>
    match agent.core.beginSend true with
    | .error e => (.error e, agent)
    | .ok core => (.ok (), { agent with core, pending := some ⟨data, core.contentType⟩ })
  cancel agent :=
    if agent.core.status = .active then
      { agent with core := agent.core.canceled, pending := none, link := agent.link.reset }
    else agent
  shutdown agent :=
    { agent with
      core := agent.core.closed, pending := none,
      link := { agent.link.leave with state := .ended } }
  wait noReply agent :=
    if agent.core.status ≠ .active then (agent.core.status, agent)
    else match agent.pending, agent.address with
      | some message, some address =>
        let (outcome, time, link) :=
          agent.core.drive (Link.exchange address message noReply) agent.link
        let link := if outcome.isCompleted then link else link.reset
        let core := (agent.core.elapse time).finish outcome
        (core.status, { agent with link, core, pending := none })
      | _, _ =>
        let core := agent.core.finish (.failed .noUrl)
        (core.status, { agent with core, pending := none })
  reply agent := agent.core.answer
  status agent := agent.core.status
  lastError agent := agent.core.lastError
  isCancelRequested agent := agent.core.cancelRequested
  requestCancel request agent :=
    { agent with core := { agent.core with cancelRequested := request } }
  waited agent := agent.core.waited

end ObexAgent

end DataSync.Obex
