import DataSync.Proofs.Obex.PacketRoundTrip

/-!
# Encoded packets

Encoding looks at lengths and at nothing else.  A packet is refused if its length does not fit into two
octets, and otherwise it has as many octets as its length says.  Values that headers cannot carry go out
as other values: a name ends for the peer before its first zero character, and a value that should have
one octet or four is cut or filled up with zeros.
-/

namespace DataSync.Obex

namespace Header

variable {header : Header}

/-- A value that the octets of the header do not give back. -/
def Unfit : Header → Prop
  | name text => '\x00' ∈ text.toList
  | other id value =>
    id.toNat / 64 = 2 ∧ value.length ≠ 1 ∨ id.toNat / 64 = 3 ∧ value.length ≠ 4
  | _ => False

instance : DecidablePred Unfit
  | name text => inferInstanceAs (Decidable ('\x00' ∈ text.toList))
  | other id value => inferInstanceAs (Decidable
      (id.toNat / 64 = 2 ∧ value.length ≠ 1 ∨ id.toNat / 64 = 3 ∧ value.length ≠ 4))
  | type _ | length _ | target _ | body _ | endOfBody _ | who _ | connectionId _ => .isFalse nofun

theorem Canonical.fit (canonical : header.Canonical) : ¬ header.Unfit := by
  cases header with
  | name text => exact fun zero => canonical zero
  | other id value =>
    rintro (⟨octet, misfit⟩ | ⟨word, misfit⟩)
    · exact misfit (canonical.2.1 octet)
    · exact misfit (canonical.2.2 word)
  | _ => exact not_false

end Header

namespace Packet

variable {packet : Packet} {octets : Bytes} {fault : PacketFault}

theorem encode_eq_error_iff :
    packet.encode = .error fault ↔
      65535 < packet.encodedLength ∧ fault = .packetTooLarge packet.encodedLength := by
  by_cases small : packet.encodedLength ≤ 65535
  · rw [encode_eq_ok_iff.2 ⟨small, rfl⟩]
    constructor
    · intro refused
      cases refused
    · intro ⟨large, _⟩
      omega
  · have refused : packet.encode = .error (.packetTooLarge packet.encodedLength) := by
      rw [encode, packetLimit, if_neg (by omega)]
    rw [refused]
    constructor
    · intro same
      cases same
      exact ⟨by omega, rfl⟩
    · intro ⟨_, same⟩
      rw [same]

/-! ## Lengths -/

/-- A packet is written exactly if its length fits into two octets, whatever its headers.  It then has
that many octets, and its length is in the two octets after its code. -/
theorem encoded_length_exact (packet : Packet) :
    ((∃ octets, packet.encode = .ok octets) ↔ packet.encodedLength ≤ 65535) ∧
    (∀ fault, packet.encode = .error fault →
      fault = .packetTooLarge packet.encodedLength) ∧
    ∀ octets, packet.encode = .ok octets → octets.length = packet.encodedLength ∧
      ∃ high low, (octets.drop 1).take 2 = [high, low] ∧
        high.toNat * 256 + low.toNat = packet.encodedLength := by
  refine ⟨⟨?_, ?_⟩, ?_, ?_⟩
  · intro ⟨octets, encoded⟩
    exact (encode_eq_ok_iff.1 encoded).1
  · intro small
    exact ⟨_, encode_eq_ok_iff.2 ⟨small, rfl⟩⟩
  · intro fault refused
    exact (encode_eq_error_iff.1 refused).2
  · intro octets encoded
    refine ⟨length_of_encode encoded, ?_⟩
    obtain ⟨small, rfl⟩ := encode_eq_ok_iff.1 encoded
    exact ⟨_, _, rfl, Bytes.word_ofWord (by omega)⟩

/-- The longest packet that is written, and the one with one octet more. -/
theorem encoded_length_exact_at_limit :
    (∃ octets, encode { code := Opcode.put, headers := [.body (List.replicate 65529 7)] } =
      .ok octets ∧ octets.length = 65535) ∧
    encode { code := Opcode.put, headers := [.body (List.replicate 65530 7)] } =
      .error (.packetTooLarge 65536) := by
  have length (count : Nat) : encodedLength
      { code := Opcode.put, headers := [.body (List.replicate count 7)] } = count + 6 := by
    simp [encodedLength, Header.encodedLength]
    omega
  constructor
  · obtain ⟨writable, -, exact⟩ := encoded_length_exact
      { code := Opcode.put, headers := [.body (List.replicate 65529 7)] }
    rw [length] at writable exact
    obtain ⟨octets, encoded⟩ := writable.2 (by omega)
    exact ⟨octets, encoded, (exact octets encoded).1⟩
  · rw [encode_eq_error_iff, length]
    exact ⟨by omega, rfl⟩

/-! ## Values -/

/-- No packet is refused for its values.  The peer reads the packet with the values that are conveyed,
which is another packet if there is a value that does not fit. -/
theorem unfit_values_conveyed (packet : Packet) :
    (∀ fault, packet.encode = .error fault ↔
      65535 < packet.encodedLength ∧ fault = .packetTooLarge packet.encodedLength) ∧
    ∀ octets, packet.encode = .ok octets →
      ((∀ header ∈ packet.headers, header.Undisguised) →
        decode octets packet.connect.isSome = .ok packet.conveyed) ∧
      ((∃ header ∈ packet.headers, header.Unfit) →
        decode octets packet.connect.isSome ≠ .ok packet) := by
  refine ⟨fun fault => encode_eq_error_iff, ?_⟩
  intro octets encoded
  constructor
  · intro undisguised
    exact decode_conveyed undisguised encoded
  · -- Only canonical headers are read.
    intro ⟨header, member, unfit⟩ decoded
    obtain ⟨_, _, _, _, _, _, _, headers⟩ := decode_eq_ok_iff.1 decoded
    exact (Header.canonical_of_readAll headers header member).fit unfit

/-- Two characters with a zero between them, two octets for one and one octet for four. -/
def strained : Packet :=
  { code := Opcode.put, headers := [.name "a\x00b", .other 0x93 [7, 8], .other 0xD0 [1]] }

theorem strained_packet_conveyed :
    ∃ octets, strained.encode = .ok octets ∧ decode octets false =
      .ok { code := Opcode.put, headers := [.name "a", .other 0x93 [7], .other 0xD0 [1, 0, 0, 0]] } := by
  have encoded := encode_eq_ok_iff.2 ⟨(by decide : strained.encodedLength ≤ 65535), rfl⟩
  have undisguised : ∀ header ∈ strained.headers, header.Undisguised := by
    simp [strained, Header.Undisguised]
  exact ⟨_, encoded, ((unfit_values_conveyed strained).2 _ encoded).1 undisguised⟩

theorem strained_packet_not_refused :
    (∀ header ∈ strained.headers, header.Unfit) ∧
    strained.encode = .ok
      [0x02, 0, 21, 0x01, 0, 11, 0, 97, 0, 0, 0, 98, 0, 0, 0x93, 7, 0xD0, 1, 0, 0, 0] := by
  decide +kernel

end Packet

end DataSync.Obex
