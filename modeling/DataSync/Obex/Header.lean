import DataSync.Basic
import DataSync.Text.Numeral
import DataSync.Text.Utf16

/-!
# OBEX headers

A header carries one piece of information about a packet or its object.  The two high bits of its
identifier fix how its value is written: as UTF-16 text, as a sequence of octets, as one octet or as
four.
-/

namespace DataSync.Obex

/-- What is wrong with octets that should be a packet, or with a packet that should be octets. -/
inductive PacketFault where
  | truncated (part : String)
  | missingHeader
  | headerTooSmall (id : UInt8) (length : Nat)
  | headerTooLarge (payload : Nat)
  | oddText
  | invalidText
  | invalidType
  | lengthMismatch (length received : Nat)
  | packetTooSmall (length : Nat)
  | packetTooLarge (length : Nat)
deriving DecidableEq

/-- The text that a person reads. -/
def PacketFault.message : PacketFault → String
  | truncated part => "truncated " ++ part
  | missingHeader => "missing header ID"
  | headerTooSmall id length =>
    "header 0x" ++ Text.hexOctets [id] ++ " length " ++ toString length ++ " too small"
  | headerTooLarge payload => "header with " ++ toString payload ++ " bytes of data too large"
  | oddText => "odd length in Unicode header"
  | invalidText => "invalid UTF-16 in Unicode header"
  | invalidType => "invalid text in Type header"
  | lengthMismatch length received =>
    "packet length " ++ toString length ++ " does not match " ++ toString received
      ++ " received bytes"
  | packetTooSmall length => "packet length " ++ toString length ++ " too small"
  | packetTooLarge length => "packet of " ++ toString length ++ " bytes too large"

/-- The ways to write the value of a header. -/
inductive HeaderForm where
  | text
  | sequence
  | octet
  | word
deriving DecidableEq

/-- The form that the two high bits of an identifier select. -/
def HeaderForm.ofId (id : UInt8) : HeaderForm :=
  if id < 0x40 then .text
  else if id < 0x80 then .sequence
  else if id < 0xC0 then .octet
  else .word

/-- Whether a value has its length in front. -/
def HeaderForm.isSized : HeaderForm → Bool
  | text | sequence => true
  | octet | word => false

/-- A header. -/
inductive Header where
  /-- The name of the object. -/
  | name (text : String)
  /-- The type of the object. -/
  | type (mime : String)
  /-- The length of the object. -/
  | length (octets : UInt32)
  /-- The service that the operation is meant for. -/
  | target (value : Bytes)
  /-- A part of the object. -/
  | body (chunk : Bytes)
  /-- The last part of the object. -/
  | endOfBody (chunk : Bytes)
  /-- The service that answers. -/
  | who (value : Bytes)
  /-- The connection that the operation belongs to. -/
  | connectionId (id : UInt32)
  /-- Any other header. -/
  | other (id : UInt8) (value : Bytes)
deriving DecidableEq

namespace Header

/-- The identifier of a header. -/
def id : Header → UInt8
  | name _ => 0x01
  | type _ => 0x42
  | length _ => 0xC3
  | target _ => 0x46
  | body _ => 0x48
  | endOfBody _ => 0x49
  | who _ => 0x4A
  | connectionId _ => 0xCB
  | other id _ => id

/-! ## Writing -/

/-- The octets of 16 bit units. -/
def wordOctets (units : List Nat) : Bytes :=
  units.flatMap Bytes.ofWord

/-- A value with its length in front, which counts the identifier and itself. -/
def sized (value : Bytes) : Bytes :=
  Bytes.ofWord (3 + value.length) ++ value

/-- The value of a header as it is written.  One that does not have the size of its form is cut or
filled up with zeros. -/
def payload : Header → Bytes
  | name text => wordOctets (Text.Utf16.encode text.toList ++ [0])
  | type mime => Bytes.ofText mime ++ [0]
  | length n | connectionId n => Bytes.ofLong n.toNat
  | target value | body value | endOfBody value | who value => value
  | other id value =>
    match HeaderForm.ofId id with
    | .octet => [value.headD 0]
    | .word => (value ++ [0, 0, 0, 0]).take 4
    | _ => value

/-- Whether the value of a header has its length in front. -/
def isSized (header : Header) : Bool :=
  (HeaderForm.ofId header.id).isSized

/-- The octets of a header. -/
def octets (header : Header) : Bytes :=
  header.id :: if header.isSized then sized header.payload else header.payload

/-- The octets of a header, unless its value has a length that cannot be written. -/
def write (header : Header) : Except PacketFault Bytes :=
  if header.isSized ∧ UInt16.size ≤ 3 + header.payload.length then
    .error (.headerTooLarge header.payload.length)
  else .ok header.octets

/-- The octets of headers, one after the other. -/
def writeAll : List Header → Except PacketFault Bytes
  | [] => .ok []
  | header :: rest => do return (← header.write) ++ (← writeAll rest)

/-- The number of octets of a header. -/
def encodedLength : Header → Nat
  | name text => 3 + ((Text.Utf16.encode text.toList).length + 1) * 2
  | type mime => 3 + mime.utf8ByteSize + 1
  | length _ | connectionId _ => 5
  | target value | body value | endOfBody value | who value => 3 + value.length
  | other id value =>
    match HeaderForm.ofId id with
    | .octet => 2
    | .word => 5
    | _ => 3 + value.length

/-! ## Reading -/

/-- The 16 bit units in octets, unless one octet is left over. -/
def units? : Bytes → Option (List Nat)
  | [] => some []
  | [_] => none
  | high :: low :: rest => (units? rest).map ((high.toNat * 256 + low.toNat) :: ·)

/-- The text of a name: everything before the first zero unit. -/
def readText (value : Bytes) : Except PacketFault String :=
  match units? value with
  | none => .error .oddText
  | some units =>
    match Text.Utf16.decode (units.takeWhile (· ≠ 0)) with
    | none => .error .invalidText
    | some chars => .ok (String.ofList chars)

/-- The text of a type, which may end with a zero octet. -/
def readType (value : Bytes) : Except PacketFault String :=
  let text := if value.getLast? = some 0 then value.dropLast else value
  match Bytes.text? text with
  | none => .error .invalidType
  | some text => .ok text

/-- The header with an identifier and a value that has its length in front. -/
def ofSized (id : UInt8) (value : Bytes) : Except PacketFault Header :=
  if id = 0x01 then (readText value).map name
  else if id = 0x42 then (readType value).map type
  else .ok <|
    if id = 0x46 then target value
    else if id = 0x48 then body value
    else if id = 0x49 then endOfBody value
    else if id = 0x4A then who value
    else other id value

/-- The header with an identifier and a value of four octets. -/
def ofWord (id : UInt8) (value : Bytes) : Header :=
  if id = 0xC3 then length (UInt32.ofNat value.toNat)
  else if id = 0xCB then connectionId (UInt32.ofNat value.toNat)
  else other id value

theorem length_drop_lt_length_cons (first : UInt8) (more rest : Bytes) (taken : Nat) :
    (rest.drop taken).length < (first :: (more ++ rest)).length := by
  simp only [List.length_drop, List.length_cons, List.length_append]
  omega

/-- The header at the start of octets, and the octets after it, which are fewer. -/
def read (bytes : Bytes) :
    Except PacketFault (Header × { rest : Bytes // rest.length < bytes.length }) :=
  match bytes with
  | [] => .error .missingHeader
  | id :: rest =>
    match HeaderForm.ofId id with
    | .octet =>
      match rest with
      | [] => .error (.truncated "one-byte header")
      | value :: rest =>
        .ok (other id [value], ⟨rest, length_drop_lt_length_cons id [value] rest 0⟩)
    | .word =>
      match rest with
      | a :: b :: c :: d :: rest =>
        .ok (ofWord id [a, b, c, d], ⟨rest, length_drop_lt_length_cons id [a, b, c, d] rest 0⟩)
      | _ => .error (.truncated "four-byte header")
    | _ =>
      match rest with
      | high :: low :: rest =>
        let length := high.toNat * 256 + low.toNat
        if length < 3 then .error (.headerTooSmall id length)
        else if rest.length < length - 3 then .error (.truncated "header value")
        else (ofSized id (rest.take (length - 3))).map fun header =>
          (header, ⟨rest.drop (length - 3),
            length_drop_lt_length_cons id [high, low] rest (length - 3)⟩)
      | _ => .error (.truncated "header length")

/-- All headers in octets. -/
def readAll (bytes : Bytes) : Except PacketFault (List Header) :=
  match bytes with
  | [] => .ok []
  | b :: more =>
    match read (b :: more) with
    | .error fault => .error fault
    | .ok (header, rest) => (readAll rest.1).map (header :: ·)
termination_by bytes.length
decreasing_by exact rest.2

end Header

end DataSync.Obex
