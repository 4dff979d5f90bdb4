import DataSync.Obex.Packet
import DataSync.Transport.Message

/-!
# OBEX sessions

An open connection to an OBEX peer.  A message is put to the peer in as many packets as its size needs
and the answer is fetched from it, packet by packet; every request waits for its response.
-/

namespace DataSync.Obex

/-- What the sides agreed on when the connection was made. -/
structure Terms where
  connectionId : Option UInt32
  maxPacket : Nat
deriving DecidableEq

/-- The packet as it travels over a connection: with the identifier of the connection in front. -/
def Terms.address (terms : Terms) (packet : Packet) : Packet :=
  match terms.connectionId with
  | none => packet
  | some id => { packet with headers := .connectionId id :: packet.headers }

variable {π : Type} [Peer π]

/-- Send a request and wait for its response. -/
def request (packet : Packet) : Action (Wire π) Interruption Packet := do
  packet.send
  Wire.reading (Packet.receive false)

/-- The failure of a request that was answered with an unwanted code. -/
def refused (name : String) (code : UInt8) : Interruption :=
  .failed (.obexResponse name code.toNat)

/-! ## Putting a message -/

/-- The first packet of a message, still without a part of it. -/
def firstPut (terms : Terms) (message : Message) : Packet :=
  let packet := terms.address { code := Opcode.put }
  { packet with
    headers := packet.headers ++
      [.type message.contentType, .length (UInt32.ofNat (min message.data.length 0xFFFFFFFF))] }

/-- Any later packet of a message, still without a part of it. -/
def nextPut (terms : Terms) : Packet :=
  terms.address { code := Opcode.put }

/-- The octets of a message that go into a packet: as many as it has room for, but at least one. -/
def room (terms : Terms) (packet : Packet) : Nat :=
  max (terms.maxPacket - (packet.encodedLength + 3)) 1

/-- The packet with the last part of a message. -/
def withLastPart (packet : Packet) (part : Bytes) : Packet :=
  { packet with code := Opcode.putFinal, headers := packet.headers ++ [.endOfBody part] }

/-- The packet with a part of a message that is not the last one. -/
def withPart (packet : Packet) (part : Bytes) : Packet :=
  { packet with headers := packet.headers ++ [.body part] }

theorem length_drop_room_lt {terms : Terms} {packet : Packet} {rest : Bytes}
    (more : ¬ rest.length ≤ room terms packet) :
    (rest.drop (room terms packet)).length < rest.length := by
  have : 1 ≤ room terms packet := Nat.le_max_right _ _
  simp
  omega

/-- Put the rest of a message, the first part of it into `packet`. -/
def putRest (terms : Terms) (packet : Packet) (rest : Bytes) :
    Action (Wire π) Interruption Unit :=
  if _all : rest.length ≤ room terms packet then
    .of fun wire => match (request (withLastPart packet rest)).on wire with
      | (.error e, wire) => (.error e, wire)
      | (.ok reply, wire) =>
        (if reply.code = Response.success then .ok () else .error (refused "PUT" reply.code), wire)
  else
    let part := rest.take (room terms packet)
    .of fun wire => match (request (withPart packet part)).on wire with
      | (.error e, wire) => (.error e, wire)
      | (.ok reply, wire) =>
        if reply.code = Response.proceed then
          (putRest terms (nextPut terms) (rest.drop (room terms packet))).on wire
        else (.error (refused "PUT" reply.code), wire)
termination_by rest.length
decreasing_by exact length_drop_room_lt (by assumption)

/-- Put a message. -/
def put (terms : Terms) (message : Message) : Action (Wire π) Interruption Unit :=
  putRest terms (firstPut terms message) message.data

/-! ## Getting the answer -/

/-- What has been received of an answer. -/
structure Partial where
  data : Bytes := []
  contentType : Option String := none
deriving DecidableEq

/-- What has been received after one more response. -/
def Partial.add (got : Partial) (reply : Packet) : Partial :=
  { data := got.data ++ (reply.body?.elim [] (·.1))
    contentType := reply.type?.or got.contentType }

/-- Get the rest of an answer with a request and at most `patience` further ones. -/
def fetchRest (terms : Terms) : (patience : Nat) → Partial → Packet →
    Action (Wire π) Interruption Partial
  | 0, _, _ => throw .stalled
  | patience + 1, got, packet => do
    let reply ← request packet
    let got := got.add reply
    if reply.code = Response.proceed then
      fetchRest terms patience got (terms.address { code := Opcode.getFinal })
    else if reply.code = Response.success then return got
    else throw (refused "GET" reply.code)

/-- The first request for an answer of a type. -/
def firstGet (terms : Terms) (contentType : String) : Packet :=
  let packet := terms.address { code := Opcode.getFinal }
  { packet with headers := packet.headers ++ [.type contentType] }

/-- Get the answer to a message of a type, which the answer has, too, unless the peer says
otherwise. -/
def fetch (terms : Terms) (contentType : String) : Action (Wire π) Interruption Message := do
  let wire ← get
  let got ← fetchRest terms wire.patience {} (firstGet terms contentType)
  return ⟨got.data, got.contentType.getD contentType⟩

/-! ## The end of a connection -/

/-- Tell the peer that the connection ends. -/
def disconnect (terms : Terms) : Action (Wire π) Interruption Unit := do
  let reply ← request (terms.address { code := Opcode.disconnect })
  if !reply.isSuccess then throw (refused "DISCONNECT" reply.code)

end DataSync.Obex
