import DataSync.Display.Basic
import DataSync.Obex.Address
import DataSync.Obex.Packet

/-!
# Displays of OBEX packets and addresses

Octets of headers are shown in hexadecimal notation.
-/

namespace DataSync.Display

open Cbor (Value)

instance : Display Obex.Address where
  display address :=
    let place : List (String × Value) := match address with
      | .bluetooth device channel => [("bt", device), ("channel", channel)]
      | .tcp host port => [("tcp", host), ("port", port)]
    .record (("text", address.text) :: ("discovery", address.needsDiscovery) :: place)

/-- The name and the value of a header. -/
def nameAndValue : Obex.Header → String × Value
  | .name text => ("Name", text)
  | .type text => ("Type", text)
  | .length n => ("Length", n.toNat)
  | .connectionId n => ("ConnectionId", n.toNat)
  | .target bytes => ("Target", hex bytes)
  | .body bytes => ("Body", hex bytes)
  | .endOfBody bytes => ("EndOfBody", hex bytes)
  | .who bytes => ("Who", hex bytes)
  | .other _ bytes => ("Other", hex bytes)

instance : Display Obex.Header where
  display header :=
    let (name, value) := nameAndValue header
    .record [("h", name), ("id", header.id.toNat), ("v", value), ("len", header.encodedLength)]

instance : Display Obex.Packet where
  display packet := .record [
    ("code", packet.code.toNat), ("success", packet.isSuccess), ("len", packet.encodedLength),
    ("connect", packet.connect.map fun connect =>
      [connect.version.toNat, connect.flags.toNat, connect.maxPacket.toNat]),
    ("headers", packet.headers), ("connection_id", packet.connectionId?.map (·.toNat)),
    ("type", packet.type?), ("target", packet.target?.map hex),
    ("body", packet.body?.map fun (part, ends) => [hex part, ends])]

end DataSync.Display
