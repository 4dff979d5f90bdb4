import DataSync.Obex.Header
import DataSync.Transport.Wire

/-!
# OBEX packets

A request or a response: a code, the length of the whole, the parameters of a connect packet, and
headers.  A packet says how long it is, so that packets can follow each other in a stream.
-/

namespace DataSync.Obex

/-- Codes of requests. -/
def Opcode.connect : UInt8 := 0x80
def Opcode.disconnect : UInt8 := 0x81
def Opcode.put : UInt8 := 0x02
def Opcode.putFinal : UInt8 := 0x82
def Opcode.getFinal : UInt8 := 0x83

/-- Codes of responses. -/
def Response.proceed : UInt8 := 0x90
def Response.success : UInt8 := 0xA0

/-- What the sides of a connection tell each other at its start. -/
structure ConnectParameters where
  version : UInt8
  flags : UInt8
  maxPacket : UInt16
deriving DecidableEq

/-- A packet. -/
structure Packet where
  code : UInt8
  connect : Option ConnectParameters := none
  headers : List Header := []
deriving DecidableEq

/-- The size that every side must accept. -/
def minPacketSize : Nat := 255

/-- The size from which on a packet cannot be written. -/
def packetLimit : Nat := 65536

namespace Packet

/-- The request for a connection over which packets of some size are accepted. -/
def connecting (maxPacket : UInt16) : Packet :=
  { code := Opcode.connect, connect := some { version := 0x10, flags := 0, maxPacket } }

/-- Whether a response says that the request was done. -/
def isSuccess (packet : Packet) : Bool :=
  packet.code = Response.success

/-- The first connection identifier. -/
def connectionId? (packet : Packet) : Option UInt32 :=
  packet.headers.findSome? fun
    | .connectionId id => some id
    | _ => none

/-- The first type. -/
def type? (packet : Packet) : Option String :=
  packet.headers.findSome? fun
    | .type mime => some mime
    | _ => none

/-- The first target. -/
def target? (packet : Packet) : Option Bytes :=
  packet.headers.findSome? fun
    | .target value => some value
    | _ => none

/-- The first part of an object, and whether it is marked as the last one. -/
def body? (packet : Packet) : Option (Bytes × Bool) :=
  packet.headers.findSome? fun
    | .body chunk => some (chunk, false)
    | .endOfBody chunk => some (chunk, true)
    | _ => none

/-! ## Writing -/

/-- The number of octets of a packet. -/
def encodedLength (packet : Packet) : Nat :=
  packet.headers.foldr (fun header length => header.encodedLength + length)
    (3 + if packet.connect.isSome then 4 else 0)

/-- The octets of connect parameters. -/
def parameterOctets : Option ConnectParameters → Bytes
  | none => []
  | some p => [p.version, p.flags] ++ Bytes.ofWord p.maxPacket.toNat

/-- The octets of a packet, if the lengths in it can be written. -/
def encode (packet : Packet) : Except PacketFault Bytes :=
  if packet.encodedLength < packetLimit then
    (Header.writeAll packet.headers).map fun headers =>
      packet.code :: Bytes.ofWord packet.encodedLength
        ++ parameterOctets packet.connect ++ headers
  else .error (.packetTooLarge packet.encodedLength)

/-! ## Reading -/

/-- The connect parameters at the start of octets, if there should be some, and the octets after
them. -/
def readParameters (withConnect : Bool) (bytes : Bytes) :
    Except PacketFault (Option ConnectParameters × Bytes) :=
  if withConnect then
    match bytes with
    | version :: flags :: high :: low :: rest =>
      .ok (some ⟨version, flags, UInt16.ofNat (high.toNat * 256 + low.toNat)⟩, rest)
    | _ => .error (.truncated "connect parameters")
  else .ok (none, bytes)

/-- The packet that octets are, with connect parameters if `withConnect` holds. -/
def decode (bytes : Bytes) (withConnect : Bool) : Except PacketFault Packet :=
  match bytes with
  | code :: high :: low :: rest => do
    let length := high.toNat * 256 + low.toNat
    if length ≠ rest.length + 3 then throw (.lengthMismatch length (rest.length + 3))
    let (connect, rest) ← readParameters withConnect rest
    return { code, connect, headers := ← Header.readAll rest }
  | _ => .error (.truncated "packet header")

/-- The failure of a transport over which a faulty packet came or should go. -/
def refuse (fault : PacketFault) : Interruption :=
  .failed (.obexProtocol fault.message)

/-- Read the next packet of a stream. -/
def receive (withConnect : Bool) : Action Inbox Interruption Packet := do
  let start ← Inbox.take 3
  let length := Bytes.toNat (start.drop 1)
  if length < 3 then throw (refuse (.packetTooSmall length))
  let rest ← Inbox.take (length - 3)
  match decode (start ++ rest) withConnect with
  | .ok packet => return packet
  | .error fault => throw (refuse fault)

/-- Send a packet. -/
def send {π : Type} [Peer π] (packet : Packet) : Action (Wire π) Interruption Unit :=
  match packet.encode with
  | .ok bytes => Wire.send bytes
  | .error fault => throw (refuse fault)

end Packet

end DataSync.Obex
