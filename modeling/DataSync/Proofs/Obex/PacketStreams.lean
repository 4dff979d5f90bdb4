import DataSync.Proofs.Obex.PacketRoundTrip
import DataSync.Rehearsal.Recorder

/-!
# Streams of packets

Packets follow each other in a stream, and each says how long it is.  Reading one takes as many octets as
the packet says, whether or not these are a packet, so that the next one is read from where it begins.
A packet that the stream ends inside of is an error.
-/

namespace DataSync.Obex.Packet

open DataSync.Action

variable {packet : Packet} {packets : List Packet} {bytes begun : Bytes} {withConnect : Bool}

/-- Octets of which the second and the third say how many they are. -/
def Delimited (bytes : Bytes) : Prop :=
  ∃ code high low rest, bytes = code :: high :: low :: rest ∧
    high.toNat * 256 + low.toNat = bytes.length

theorem delimited_of_decode (decoded : decode bytes withConnect = .ok packet) : Delimited bytes := by
  obtain ⟨high, low, rest, -, rfl, size, -⟩ := decode_eq_ok_iff.1 decoded
  exact ⟨packet.code, high, low, rest, rfl, size⟩

theorem delimited_of_encode (encoded : packet.encode = .ok bytes) : Delimited bytes := by
  have length := length_of_encode encoded
  obtain ⟨small, rfl⟩ := encode_eq_ok_iff.1 encoded
  refine ⟨_, _, _, _, rfl, ?_⟩
  rw [length]
  exact Bytes.word_ofWord (by omega)

/-! ## Reading one packet -/

theorem on_receive_cons (code high low : UInt8) (rest : Bytes) (ended : Bool) :
    (receive withConnect).on { unread := code :: high :: low :: rest, ended } =
      if high.toNat * 256 + low.toNat < 3 then
        (.error (refuse (.packetTooSmall (high.toNat * 256 + low.toNat))), { unread := rest, ended })
      else if rest.length < high.toNat * 256 + low.toNat - 3 then
        (.error (if ended then .failed (.io .cutShort) else .stalled), { unread := [], ended })
      else
        ((decode (code :: high :: low :: rest.take (high.toNat * 256 + low.toNat - 3))
            withConnect).mapError refuse,
          { unread := rest.drop (high.toNat * 256 + low.toNat - 3), ended }) := by
  have length : Bytes.toNat [high, low] = high.toNat * 256 + low.toNat := by simp [Bytes.toNat]
  have start := Inbox.on_take [code, high, low] rest ended
  simp only [List.length_cons, List.length_nil, Nat.zero_add, Nat.reduceAdd, List.cons_append,
    List.nil_append] at start
  simp only [receive, on_bind, start, List.drop_succ_cons, List.drop_zero, length]
  split
  · rfl
  · by_cases short : rest.length < high.toNat * 256 + low.toNat - 3
    · simp [on_bind, Inbox.take, short]
    · simp only [on_bind, Inbox.take, on_of, short, if_false, List.cons_append, List.nil_append]
      cases decode (code :: high :: low :: rest.take (high.toNat * 256 + low.toNat - 3))
        withConnect <;> rfl

/-- Octets that say how many they are are read as a whole, whatever they are and whatever follows. -/
theorem on_receive_of_delimited (delimited : Delimited bytes) (rest : Bytes) (ended : Bool) :
    (receive withConnect).on { unread := bytes ++ rest, ended } =
      ((decode bytes withConnect).mapError refuse, { unread := rest, ended }) := by
  obtain ⟨code, high, low, more, rfl, size⟩ := delimited
  have length : high.toNat * 256 + low.toNat = more.length + 3 := size
  have enough : ¬ (more ++ rest).length < more.length := by simp
  rw [List.cons_append, List.cons_append, List.cons_append, on_receive_cons, length,
    if_neg (by omega), Nat.add_sub_cancel, if_neg enough, List.take_left, List.drop_left]

theorem on_receive (decoded : decode bytes withConnect = .ok packet) (rest : Bytes) (ended : Bool) :
    (receive withConnect).on { unread := bytes ++ rest, ended } =
      (.ok packet, { unread := rest, ended }) := by
  rw [on_receive_of_delimited (delimited_of_decode decoded), decoded]
  rfl

/-- A packet of which not all octets are there is lost with them. -/
theorem on_receive_of_cut (delimited : Delimited bytes) (within : begun <+: bytes)
    (cut : begun.length < bytes.length) (ended : Bool) :
    (receive withConnect).on { unread := begun, ended } =
      (.error (if ended then .failed (.io .cutShort) else .stalled), { unread := [], ended }) := by
  obtain ⟨code, high, low, more, rfl, size⟩ := delimited
  match begun with
  | [] | [_] | [_, _] => simp [receive, on_bind, Inbox.take]
  | first :: second :: third :: rest =>
    obtain ⟨rfl, rfl, rfl, -⟩ : first = code ∧ second = high ∧ third = low ∧ rest <+: more := by
      simpa [List.cons_prefix_cons] using within
    simp only [List.length_cons] at size cut
    rw [on_receive_cons, if_neg (by omega), if_pos (by omega)]

/-- Any octets begin with a packet as far as its length tells, or are a part of one, or begin with a
length that no packet has. -/
theorem delimited_cases (unread : Bytes) :
    (∃ bytes rest, unread = bytes ++ rest ∧ Delimited bytes) ∨
    (∃ bytes, unread <+: bytes ∧ unread.length < bytes.length ∧ Delimited bytes) ∨
    ∃ code high low rest, unread = code :: high :: low :: rest ∧ high.toNat * 256 + low.toNat < 3 := by
  match unread with
  | [] => exact .inr (.inl ⟨[0, 0, 3], by simp, by simp, 0, 0, 3, [], rfl, rfl⟩)
  | [code] => exact .inr (.inl ⟨[code, 0, 3], by simp, by simp, code, 0, 3, [], rfl, rfl⟩)
  | [code, high] =>
    refine .inr (.inl ⟨code :: high :: 3 :: List.replicate (high.toNat * 256) 0, ?_, ?_,
      code, high, 3, _, rfl, ?_⟩)
    · simp [List.cons_prefix_cons]
    · simp
    · simp
  | code :: high :: low :: rest =>
    by_cases small : high.toNat * 256 + low.toNat < 3
    · exact .inr (.inr ⟨code, high, low, rest, rfl, small⟩)
    · by_cases complete : high.toNat * 256 + low.toNat ≤ rest.length + 3
      · refine .inl ⟨code :: high :: low :: rest.take (high.toNat * 256 + low.toNat - 3),
          rest.drop (high.toNat * 256 + low.toNat - 3), by simp, code, high, low, _, rfl, ?_⟩
        simp only [List.length_cons, List.length_take]
        omega
      · refine .inr (.inl ⟨code :: high :: low :: rest ++
          List.replicate (high.toNat * 256 + low.toNat - 3 - rest.length) 0,
          List.prefix_append _ _, ?_, code, high, low, _, rfl, ?_⟩)
        all_goals
          simp only [List.length_append, List.length_cons, List.length_replicate]
          omega

/-- A packet that is read was all that its length told, and what follows stays. -/
theorem on_receive_eq_ok_iff {inbox after : Inbox} :
    (receive withConnect).on inbox = (.ok packet, after) ↔
      ∃ bytes, inbox = { after with unread := bytes ++ after.unread } ∧
        decode bytes withConnect = .ok packet := by
  constructor
  · obtain ⟨unread, ended⟩ := inbox
    intro received
    obtain ⟨bytes, rest, rfl, delimited⟩ | ⟨bytes, within, cut, delimited⟩ |
      ⟨code, high, low, rest, rfl, small⟩ := delimited_cases unread
    · rw [on_receive_of_delimited delimited] at received
      cases decoded : decode bytes withConnect with
      | error fault =>
        rw [decoded] at received
        cases received
      | ok other =>
        rw [decoded] at received
        cases received
        exact ⟨bytes, rfl, decoded⟩
    · rw [on_receive_of_cut delimited within cut] at received
      cases received
    · rw [on_receive_cons, if_pos small] at received
      cases received
  · rintro ⟨bytes, rfl, decoded⟩
    exact on_receive decoded after.unread after.ended

/-! ## Reading packet after packet -/

/-- Read a packet for each entry, with connect parameters where it says so. -/
def receiveEach : List Bool → Action Inbox Interruption (List Packet)
  | [] => pure []
  | withConnect :: rest => do return (← receive withConnect) :: (← receiveEach rest)

theorem on_receiveEach
    (decoded : ∀ packet ∈ packets, decode packet.octets packet.connect.isSome = .ok packet)
    (trailing : Bytes) (ended : Bool) :
    (receiveEach (packets.map (·.connect.isSome))).on
        { unread := packets.flatMap Packet.octets ++ trailing, ended } =
      (.ok packets, { unread := trailing, ended }) := by
  induction packets with
  | nil => simp [receiveEach]
  | cons packet others inductionHypothesis =>
    obtain ⟨first, later⟩ := List.forall_mem_cons.1 decoded
    have readOthers := inductionHypothesis later
    rw [List.flatMap_cons, List.append_assoc, List.map_cons, receiveEach, on_bind, on_receive first]
    simp [on_map, readOthers, Except.map]

theorem on_forM_send (encoded : ∀ packet ∈ packets, packet.encode = .ok packet.octets)
    (received : Bytes) :
    (forM packets send).on ({ peer := { received } } : Wire Recorder) =
      (.ok (), { peer := { received := received ++ packets.flatMap Packet.octets } }) := by
  induction packets generalizing received with
  | nil => simp
  | cons packet others inductionHypothesis =>
    obtain ⟨first, later⟩ := List.forall_mem_cons.1 encoded
    have sentFirst : (send packet).on ({ peer := { received } } : Wire Recorder) =
        (.ok (), { peer := { received := received ++ packet.octets } }) := by
      simp [send, first, Wire.send, Peer.react, Inbox.receive]
    have sentOthers := inductionHypothesis later (received ++ packet.octets)
    rw [List.forM_cons, on_bind, sentFirst]
    simpa using sentOthers

/-- Packets delimit themselves.  Canonical packets that are sent one after the other are read one after
the other, and what follows them stays.  From a stream that ends inside a packet none is read.  From any
stream a packet is read with as many octets as its length tells. -/
theorem packets_delimit_themselves :
    (∀ packets : List Packet, (∀ packet ∈ packets, packet.Canonical ∧ packet.encodedLength ≤ 65535) →
      ∃ encodings : List Bytes, packets.map encode = encodings.map .ok ∧
        (∀ bytes ∈ encodings, Delimited bytes) ∧
        (forM packets send).on ({ peer := {} } : Wire Recorder) =
          (.ok (), { peer := { received := encodings.flatten } }) ∧
        ∀ trailing ended, (receiveEach (packets.map (·.connect.isSome))).on
            { unread := encodings.flatten ++ trailing, ended } =
          (.ok packets, { unread := trailing, ended })) ∧
    (∀ bytes begun withConnect ended, Delimited bytes → begun <+: bytes → begun ≠ bytes →
      (receive withConnect).on { unread := begun, ended } =
        (.error (if ended then .failed (.io .cutShort) else .stalled), { unread := [], ended })) ∧
    ∀ withConnect inbox packet after, (receive withConnect).on inbox = (.ok packet, after) →
      ∃ bytes, inbox = { after with unread := bytes ++ after.unread } ∧ Delimited bytes ∧
        decode bytes withConnect = .ok packet := by
  refine ⟨?_, ?_, ?_⟩
  · intro packets canonical
    have encoded : ∀ packet ∈ packets, packet.encode = .ok packet.octets := by
      intro packet member
      exact encode_eq_ok_iff.2 ⟨(canonical packet member).2, rfl⟩
    refine ⟨packets.map Packet.octets, ?_, ?_, ?_, ?_⟩
    · simpa using encoded
    · intro bytes member
      obtain ⟨packet, isOne, rfl⟩ := List.mem_map.1 member
      exact delimited_of_encode (encoded packet isOne)
    · exact on_forM_send encoded []
    · apply on_receiveEach
      intro packet member
      exact decode_of_encode (canonical packet member).1 (encoded packet member)
  · intro bytes begun withConnect ended delimited within proper
    have cut : begun.length < bytes.length :=
      Nat.lt_of_le_of_ne within.length_le fun same => proper (within.eq_of_length same)
    exact on_receive_of_cut delimited within cut ended
  · intro withConnect inbox packet after received
    obtain ⟨bytes, split, decoded⟩ := on_receive_eq_ok_iff.1 received
    exact ⟨bytes, split, delimited_of_decode decoded, decoded⟩

/-- A response of an object's end. -/
def farewell : Packet :=
  { code := Response.success, headers := [.endOfBody [9, 9]] }

/-- Two packets, and two octets of a third one. -/
theorem introduction_and_farewell_delimited :
    (∃ encodings : List Bytes, [introduction, farewell].map encode = encodings.map .ok ∧
      (receiveEach [true, false]).on { unread := encodings.flatten ++ [0x90, 0], ended := true } =
        (.ok [introduction, farewell], { unread := [0x90, 0], ended := true })) ∧
    (receive false).on { unread := [0x90, 0], ended := true } =
      (.error (.failed (.io .cutShort)), { unread := [], ended := true }) ∧
    ∃ bytes, ({ unread := [0xA0, 0, 3, 0x90] } : Inbox) = { unread := bytes ++ [0x90] } ∧
      Delimited bytes ∧ decode bytes false = .ok { code := Response.success } := by
  obtain ⟨each, cut, consumed⟩ := packets_delimit_themselves
  refine ⟨?_, ?_, ?_⟩
  · have canonical : ∀ packet ∈ [introduction, farewell],
        packet.Canonical ∧ packet.encodedLength ≤ 65535 := by
      simp only [List.forall_mem_cons]
      unfold Canonical introduction farewell
      exact ⟨by decide, by decide, nofun⟩
    obtain ⟨encodings, encoded, -, -, read⟩ := each _ canonical
    exact ⟨encodings, encoded, read [0x90, 0] true⟩
  · exact cut [0x90, 0, 3] [0x90, 0] false true ⟨0x90, 0, 3, [], rfl, rfl⟩ (by decide) (by decide)
  · apply consumed false _ { code := Response.success } { unread := [0x90] }
    have decoded : decode [0xA0, 0, 3] false = .ok { code := Response.success } :=
      decode_eq_ok_iff.2 ⟨0, 3, [], [], rfl, rfl, rfl, by rw [Header.readAll]⟩
    exact on_receive decoded [0x90] false

end DataSync.Obex.Packet
