import DataSync.Obex.Packet
import DataSync.Proofs.Obex.CanonicalHeaders

/-!
# Writing and reading packets

A packet of canonical headers is read as it was written.  In the other direction only such packets are
read, so that what was read once is read again from its own octets, although these need not be the
octets it was read from: a name loses what follows its first zero unit, and a type gains the zero octet
that it may lack.
-/

namespace DataSync.Obex

namespace Header

variable {header : Header} {headers : List Header} {bytes rest : Bytes}

/-! ## Lists of headers -/

theorem readAll_of_readAnswer (read : readAnswer bytes = .ok (header, rest)) :
    readAll bytes = (readAll rest).map (header :: ·) := by
  obtain ⟨answer, result, parts⟩ := map_eq_ok_iff.1 read
  cases parts
  cases bytes with
  | nil => cases result
  | cons octet more => rw [readAll, result]

theorem writeAll_of_small (small : (headers.flatMap octets).length ≤ 65535) :
    writeAll headers = .ok (headers.flatMap octets) := by
  induction headers with
  | nil => rfl
  | cons header others inductionHypothesis =>
    rw [List.flatMap_cons, List.length_append, length_octets] at small
    have writtenFirst : header.write = .ok header.octets := write_eq_ok_iff.2 ⟨by omega, rfl⟩
    have writtenOthers := inductionHypothesis (by omega)
    rw [writeAll, writtenFirst, writtenOthers]
    rfl

/-- Where headers were written, those are read that they convey. -/
theorem readAll_octets (undisguised : ∀ header ∈ headers, header.Undisguised)
    (small : (headers.flatMap octets).length < 65536) :
    readAll (headers.flatMap octets) = .ok (headers.map conveyed) := by
  induction headers with
  | nil => rw [List.flatMap_nil, readAll, List.map_nil]
  | cons header others inductionHypothesis =>
    rw [List.flatMap_cons, List.length_append, length_octets] at small
    have readFirst := readAnswer_octets (undisguised header List.mem_cons_self)
      (Nat.lt_of_le_of_lt (Nat.le_add_right _ _) small) (others.flatMap octets)
    have readOthers := inductionHypothesis (fun other member => undisguised other (.tail _ member))
      (Nat.lt_of_le_of_lt (Nat.le_add_left _ _) small)
    rw [List.flatMap_cons, readAll_of_readAnswer readFirst, readOthers]
    rfl

theorem map_conveyed (canonical : ∀ header ∈ headers, header.Canonical) :
    headers.map conveyed = headers :=
  (List.map_congr_left fun header member => (canonical header member).conveyed_eq).trans
    (List.map_id headers)

theorem canonical_of_read {answer : Header × { rest : Bytes // rest.length < bytes.length }}
    (result : read bytes = .ok answer) : answer.1.Canonical := by
  obtain ⟨id, ⟨form, octet, shape⟩ | ⟨form, a, b, c, d, shape⟩ | ⟨form, value, shape⟩⟩ :=
    exists_id_of_read result
  · exact shape ▸ canonical_octet form octet
  · exact shape ▸ canonical_ofWord form a b c d
  · exact canonical_of_ofSized form shape

theorem canonical_of_readAll (result : readAll bytes = .ok headers) :
    ∀ header ∈ headers, header.Canonical := by
  fun_induction readAll bytes generalizing headers with
  | case1 =>
    cases result
    simp
  | case2 octet more fault failed => cases result
  | case3 octet more header rest readFirst inductionHypothesis =>
    obtain ⟨others, readOthers, rfl⟩ := map_eq_ok_iff.1 result
    intro other member
    obtain rfl | later := List.mem_cons.1 member
    · exact canonical_of_read readFirst
    · exact inductionHypothesis readOthers other later

end Header

namespace Packet

/-- A packet that is read as it is written. -/
def Canonical (packet : Packet) : Prop :=
  ∀ header ∈ packet.headers, header.Canonical

variable {packet : Packet} {bytes rest : Bytes} {withConnect : Bool}

/-! ## Lengths -/

theorem length_parameterOctets (connect : Option ConnectParameters) :
    (parameterOctets connect).length = if connect.isSome then 4 else 0 := by
  cases connect <;> rfl

theorem encodedLength_eq (packet : Packet) :
    packet.encodedLength =
      (parameterOctets packet.connect ++ packet.headers.flatMap Header.octets).length + 3 := by
  rw [List.length_append, length_parameterOctets, encodedLength]
  induction packet.headers with
  | nil =>
    rw [List.foldr_nil, List.flatMap_nil, List.length_nil]
    omega
  | cons header others inductionHypothesis =>
    rw [List.foldr_cons, inductionHypothesis, List.flatMap_cons, List.length_append,
      Header.length_octets]
    omega

/-! ## Reading -/

theorem readParameters_octets (connect : Option ConnectParameters) (rest : Bytes) :
    readParameters connect.isSome (parameterOctets connect ++ rest) = .ok (connect, rest) := by
  cases connect with
  | none => rfl
  | some parameters =>
    have size := Bytes.word_ofWord parameters.maxPacket.toNat_lt
    simp only [readParameters, parameterOctets, Bytes.ofWord, Option.isSome_some, if_true,
      List.cons_append, List.nil_append, size, UInt16.ofNat_toNat]

theorem isSome_of_readParameters {connect : Option ConnectParameters}
    (result : readParameters withConnect bytes = .ok (connect, rest)) :
    connect.isSome = withConnect := by
  cases withConnect with
  | false =>
    cases result
    rfl
  | true =>
    unfold readParameters at result
    rw [if_pos rfl] at result
    split at result
    · cases result
      rfl
    · cases result

theorem decode_cons_eq_ok_iff {code high low : UInt8} :
    decode (code :: high :: low :: rest) withConnect = .ok packet ↔
      high.toNat * 256 + low.toNat = rest.length + 3 ∧ packet.code = code ∧
      ∃ octets, readParameters withConnect rest = .ok (packet.connect, octets) ∧
        Header.readAll octets = .ok packet.headers := by
  by_cases size : high.toNat * 256 + low.toNat = rest.length + 3
  · simp only [decode, size, ne_eq, not_true_eq_false, if_false, bind_eq_ok_iff, true_and]
    constructor
    · rintro ⟨⟨connect, octets⟩, parameters, headers, all, ⟨⟩⟩
      exact ⟨rfl, octets, parameters, all⟩
    · rintro ⟨rfl, octets, parameters, all⟩
      exact ⟨_, parameters, _, all, rfl⟩
  · simp only [decode, size, ne_eq, not_false_eq_true, if_true, false_and, iff_false]
    rintro ⟨⟩

/-- What octets are that are read as a packet. -/
theorem decode_eq_ok_iff : decode bytes withConnect = .ok packet ↔
    ∃ high low rest headerOctets, bytes = packet.code :: high :: low :: rest ∧
      high.toNat * 256 + low.toNat = rest.length + 3 ∧
      readParameters withConnect rest = .ok (packet.connect, headerOctets) ∧
      Header.readAll headerOctets = .ok packet.headers := by
  match bytes with
  | [] | [_] | [_, _] => simp [decode]
  | code :: high :: low :: rest =>
    rw [decode_cons_eq_ok_iff]
    grind

/-- The octets of a packet of which the length can be written. -/
def octets (packet : Packet) : Bytes :=
  packet.code :: (Bytes.ofWord packet.encodedLength
    ++ (parameterOctets packet.connect ++ packet.headers.flatMap Header.octets))

theorem encode_eq_ok_iff :
    packet.encode = .ok bytes ↔ packet.encodedLength ≤ 65535 ∧ bytes = packet.octets := by
  unfold encode packetLimit octets
  split
  · have length := encodedLength_eq packet
    rw [List.length_append] at length
    rw [Header.writeAll_of_small (by omega)]
    constructor
    · intro encoded
      cases encoded
      exact ⟨by omega, by simp⟩
    · intro ⟨_, same⟩
      rw [same]
      simp [Except.map]
  · constructor
    · intro encoded
      cases encoded
    · omega

theorem length_of_encode (encoded : packet.encode = .ok bytes) :
    bytes.length = packet.encodedLength := by
  rw [encodedLength_eq, (encode_eq_ok_iff.1 encoded).2, octets]
  simp [Bytes.ofWord]

/-- What a packet conveys is what its headers do. -/
def conveyed (packet : Packet) : Packet :=
  { packet with headers := packet.headers.map Header.conveyed }

theorem Canonical.conveyed_eq (canonical : packet.Canonical) : packet.conveyed = packet := by
  rw [conveyed, Header.map_conveyed canonical]

/-- Where a packet was written, the one is read that it conveys. -/
theorem decode_conveyed (undisguised : ∀ header ∈ packet.headers, header.Undisguised)
    (encoded : packet.encode = .ok bytes) :
    decode bytes packet.connect.isSome = .ok packet.conveyed := by
  obtain ⟨small, rfl⟩ := encode_eq_ok_iff.1 encoded
  have length := encodedLength_eq packet
  have headersSmall : (packet.headers.flatMap Header.octets).length < 65536 := by
    rw [List.length_append] at length
    omega
  exact decode_eq_ok_iff.2 ⟨_, _, _, _, rfl, (Bytes.word_ofWord (by omega)).trans length,
    readParameters_octets packet.connect _, Header.readAll_octets undisguised headersSmall⟩

theorem decode_of_encode (canonical : packet.Canonical) (encoded : packet.encode = .ok bytes) :
    decode bytes packet.connect.isSome = .ok packet := by
  have decoded := decode_conveyed (fun header member => (canonical header member).undisguised) encoded
  rwa [canonical.conveyed_eq] at decoded

theorem decode_encode_of_small (canonical : packet.Canonical) (small : packet.encodedLength ≤ 65535) :
    ∃ bytes, packet.encode = .ok bytes ∧ decode bytes packet.connect.isSome = .ok packet := by
  have encoded := encode_eq_ok_iff.2 ⟨small, rfl⟩
  exact ⟨_, encoded, decode_of_encode canonical encoded⟩

/-- Canonical packets are read as they were written, and only canonical packets are read. -/
theorem canonical_packets_round_trip :
    (∀ packet : Packet, packet.Canonical → packet.encodedLength ≤ 65535 →
      ∃ bytes, packet.encode = .ok bytes ∧ decode bytes packet.connect.isSome = .ok packet) ∧
    (∀ bytes withConnect packet, decode bytes withConnect = .ok packet →
      packet.Canonical ∧ packet.connect.isSome = withConnect ∧
      (packet.encodedLength ≤ 65535 →
        ∃ again, packet.encode = .ok again ∧ decode again withConnect = .ok packet)) := by
  refine ⟨fun packet => decode_encode_of_small, fun bytes withConnect packet result => ?_⟩
  obtain ⟨_, _, _, _, _, _, parameters, headers⟩ := decode_eq_ok_iff.1 result
  have canonical : packet.Canonical := Header.canonical_of_readAll headers
  have connect : packet.connect.isSome = withConnect := isSome_of_readParameters parameters
  exact ⟨canonical, connect, fun small => connect ▸ decode_encode_of_small canonical small⟩

/-- A connect request with headers of all forms, some of them of no kind of their own. -/
def introduction : Packet :=
  { connecting 1024 with
    headers := [.name "né 😀", .type "text/x-vcard", .target [], .who [0, 255], .length 4294967295,
      .other 0x05 [0, 0, 0], .other 0x93 [7], .other 0xD0 [1, 2, 3, 4], .endOfBody [0x48, 0]] }

theorem introduction_round_trips :
    introduction.Canonical ∧ introduction.encodedLength ≤ 65535 ∧
      ∃ bytes, introduction.encode = .ok bytes ∧ decode bytes true = .ok introduction ∧
        ∃ again, introduction.encode = .ok again ∧ decode again true = .ok introduction := by
  have canonical : introduction.Canonical := by unfold Canonical introduction; decide
  have small : introduction.encodedLength ≤ 65535 := by decide
  obtain ⟨bytes, written, result⟩ := canonical_packets_round_trip.1 introduction canonical small
  have reread := (canonical_packets_round_trip.2 bytes true introduction result).2.2 small
  exact ⟨canonical, small, bytes, written, result, reread⟩

end Packet

end DataSync.Obex
