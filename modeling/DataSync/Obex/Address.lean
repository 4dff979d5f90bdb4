import DataSync.Text.Blank
import DataSync.Text.Numeral
import DataSync.Text.Split
import DataSync.Transport.Error

/-!
# OBEX addresses

Where an OBEX peer is reached: `obex-bt://` and a Bluetooth device with an optional channel, or
`obex-tcp://` and a host with an optional port.
-/

namespace DataSync.Obex

/-- Where a peer is reached. -/
inductive Address where
  | bluetooth (device : String) (channel : Option Nat)
  | tcp (host : String) (port : Nat)
deriving DecidableEq

namespace Address

/-- The port of the protocol. -/
def defaultPort : Nat := 650

/-- Whether the channel has to be asked for first. -/
def needsDiscovery : Address → Bool
  | bluetooth _ none => true
  | _ => false

/-- The written form of an address. -/
def text : Address → String
  | bluetooth device none => "obex-bt://" ++ device
  | bluetooth device (some channel) => "obex-bt://" ++ device ++ "+" ++ toString channel
  | tcp host port => "obex-tcp://" ++ host ++ ":" ++ toString port

/-- Whether characters are six groups of two hexadecimal digits with colons between them. -/
def isDevice (chars : List Char) : Bool :=
  let groups := Text.splitAll ':' chars
  groups.length = 6 && groups.all fun group =>
    group.length = 2 && group.all fun c => (Text.hexDigit? c).isSome

/-- The number of a channel. -/
def channel? (chars : List Char) : Option Nat :=
  (Text.unsigned? 256 chars).filter fun channel => 1 ≤ channel && channel ≤ 30

/-- The Bluetooth address after its scheme. -/
def readBluetooth (chars : List Char) : Except String Address := do
  let (device, channel) ← match Text.splitAt? '+' chars with
    | none => pure (chars, none)
    | some (device, channel) =>
      match channel? channel with
      | none => throw "invalid RFCOMM channel"
      | some channel => pure (device, some channel)
  if isDevice device then return .bluetooth (Text.upperAscii (String.ofList device)) channel
  else throw "invalid Bluetooth address"

/-- Characters without the slashes at their end. -/
def withoutSlashes (chars : List Char) : List Char :=
  (chars.reverse.dropWhile (· = '/')).reverse

/-- The network address after its scheme.  A colon at its very start does not begin a port. -/
def readTcp (chars : List Char) : Except String Address :=
  let chars := withoutSlashes chars
  let alone := if chars.isEmpty then .error "missing host"
    else .ok (.tcp (String.ofList chars) defaultPort)
  match Text.splitAtLast? ':' chars with
  | none => alone
  | some ([], _) => alone
  | some (host, port) =>
    match Text.unsigned? 65536 port with
    | none => .error "invalid port"
    | some port => .ok (.tcp (String.ofList host) port)

/-- The address that a text denotes. -/
def parse (url : String) : Except TransportError Address :=
  Except.mapError (.invalidUrl url) <|
    match Text.afterScheme? "obex-bt://" url.toList with
    | some rest => readBluetooth rest
    | none =>
      match Text.afterScheme? "obex-tcp://" url.toList with
      | some rest => readTcp rest
      | none => .error "expected obex-bt:// or obex-tcp://"

end Address

end DataSync.Obex
