import DataSync.Proofs.Obex.Requests
import DataSync.Proofs.Obex.Tape

/-!
# Segments of a message

A message is put to a peer in packets that depend on the message and on the terms of the connection
alone.  They hold all of the message, part after part, and describe it once.  What the peer says decides
only how many of them are sent: the next one follows an answer that asks for it, and any other answer is
the last thing that happens.
-/

namespace DataSync.Obex

open DataSync.Action

variable {π : Type} {terms : Terms} {packet reply : Packet} {packets : List Packet} {rest : Bytes}

/-! ## Cutting a message -/

/-- The packets for the rest of a message, the first of them made of `packet`. -/
def segmentsFrom (terms : Terms) (packet : Packet) (rest : Bytes) : List Packet :=
  if rest.length ≤ room terms packet then [withLastPart packet rest]
  else
    withPart packet (rest.take (room terms packet)) ::
      segmentsFrom terms (nextPut terms) (rest.drop (room terms packet))
termination_by rest.length
decreasing_by exact length_drop_room_lt (by assumption)

/-- The packets that put a message. -/
def segments (terms : Terms) (message : Message) : List Packet :=
  segmentsFrom terms (firstPut terms message) message.data

theorem exists_segments (terms : Terms) (message : Message) :
    ∃ first more, segments terms message = first :: more := by
  unfold segments segmentsFrom
  split
  · exact ⟨_, _, rfl⟩
  · exact ⟨_, _, rfl⟩

/-- Whether a header holds a part of an object. -/
def Header.isPart : Header → Bool
  | .body _ | .endOfBody _ => true
  | _ => false

/-- Whether a header says of what type or how long an object is. -/
def Header.describes : Header → Bool
  | .type _ | .length _ => true
  | _ => false

/-- The headers that describe a message. -/
def descriptions (message : Message) : List Header :=
  [.type message.contentType, .length (UInt32.ofNat (min message.data.length 0xFFFFFFFF))]

/-- Packets that put data, described in the first of them and nowhere else: each has one part, and only
the last packet is marked as such, and its part too. -/
inductive Conveys : (described : List Header) → Bytes → List Packet → Prop
  | last {described : List Header} {data : Bytes} {packet : Packet}
      (code : packet.code = Opcode.putFinal)
      (part : packet.headers.filter Header.isPart = [.endOfBody data])
      (description : packet.headers.filter Header.describes = described) :
      Conveys described data [packet]
  | more {described : List Header} {chunk data : Bytes} {packet : Packet} {packets : List Packet}
      (code : packet.code = Opcode.put)
      (part : packet.headers.filter Header.isPart = [.body chunk])
      (description : packet.headers.filter Header.describes = described)
      (others : Conveys [] data packets) :
      Conveys described (chunk ++ data) (packet :: packets)

theorem Conveys.code_mem {described : List Header} {data : Bytes}
    (conveys : Conveys described data packets) :
    ∀ packet ∈ packets, packet.code = Opcode.put ∨ packet.code = Opcode.putFinal := by
  induction conveys with
  | last code => simpa using .inr code
  | more code _ _ _ inductionHypothesis => simpa using ⟨.inl code, inductionHypothesis⟩

theorem conveys_segmentsFrom (code : packet.code = Opcode.put)
    (bare : packet.headers.filter Header.isPart = []) :
    Conveys (packet.headers.filter Header.describes) rest (segmentsFrom terms packet rest) := by
  fun_induction segmentsFrom with
  | case1 packet rest all =>
    exact .last rfl (by simp [withLastPart, bare, Header.isPart])
      (by simp [withLastPart, Header.describes])
  | case2 packet rest more inductionHypothesis =>
    -- Later packets hold nothing but the name of the connection before their part is put in.
    have later := inductionHypothesis (terms.code_address _) (terms.filter_address _ fun _ => rfl)
    have undescribed : (nextPut terms).headers.filter Header.describes = [] :=
      terms.filter_address _ fun _ => rfl
    rw [undescribed] at later
    have part : (withPart packet (rest.take (room terms packet))).headers.filter Header.isPart =
        [.body (rest.take (room terms packet))] := by
      simp [withPart, bare, Header.isPart]
    have description : (withPart packet (rest.take (room terms packet))).headers.filter
        Header.describes = packet.headers.filter Header.describes := by
      simp [withPart, Header.describes]
    rw [← description]
    have isPut : (withPart packet (rest.take (room terms packet))).code = Opcode.put := code
    have conveys := Conveys.more isPut part rfl later
    rwa [List.take_append_drop] at conveys

theorem conveys_segments (terms : Terms) (message : Message) :
    Conveys (descriptions message) message.data (segments terms message) := by
  have headers : (firstPut terms message).headers =
      (terms.address { code := Opcode.put }).headers ++ descriptions message := rfl
  have described : (firstPut terms message).headers.filter Header.describes = descriptions message := by
    rw [headers, List.filter_append, terms.filter_address _ fun _ => rfl]
    rfl
  have bare : (firstPut terms message).headers.filter Header.isPart = [] := by
    rw [headers, List.filter_append, terms.filter_address _ fun _ => rfl]
    rfl
  rw [← described]
  exact conveys_segmentsFrom (terms.code_address _) bare

/-- Every packet but the last takes at least one octet off, and the last is not left without any unless
there was none. -/
theorem length_segmentsFrom_le (terms : Terms) (packet : Packet) (rest : Bytes) :
    (segmentsFrom terms packet rest).length ≤ max rest.length 1 := by
  fun_induction segmentsFrom with
  | case1 => exact Nat.le_max_right _ _
  | case2 packet rest more inductionHypothesis =>
    have : 1 ≤ room terms packet := Nat.le_max_right _ _
    rw [List.length_drop] at inductionHypothesis
    rw [List.length_cons]
    omega

theorem belongs_segmentsFrom (belongs : packet.Belongs terms.connectionId) :
    ∀ segment ∈ segmentsFrom terms packet rest, segment.Belongs terms.connectionId := by
  fun_induction segmentsFrom with
  | case1 packet rest all => simpa using belongs.withLastPart rest
  | case2 packet rest more inductionHypothesis =>
    simpa using ⟨belongs.withPart _, inductionHypothesis (Terms.belongs_address (by simp))⟩

/-! ## Putting packet after packet -/

/-- An answer asks for what follows its request, or says that nothing has to. -/
def Wanted (request reply : Packet) : Prop :=
  reply.code = if request.code = Opcode.putFinal then Response.success else Response.proceed

instance : Decidable (Wanted packet reply) :=
  inferInstanceAs (Decidable (_ = _))

/-- Send packets as long as they are answered as wanted. -/
def submit [Peer π] : List Packet → Action (Wire π) Interruption Unit
  | [] => pure ()
  | packet :: more => do
    let reply ← request packet
    if Wanted packet reply then submit more else throw (refused "PUT" reply.code)

theorem putRest_eq_submit [Peer π] (code : packet.code = Opcode.put) :
    (putRest terms packet rest : Action (Wire π) Interruption Unit) =
      submit (segmentsFrom terms packet rest) := by
  fun_induction segmentsFrom with
  | case1 packet rest all =>
    rw [putRest_eq, if_pos all]
    rfl
  | case2 packet rest more inductionHypothesis =>
    rw [putRest_eq, if_neg more, inductionHypothesis (terms.code_address _)]
    have wanted (reply : Packet) : Wanted (withPart packet (rest.take (room terms packet))) reply ↔
        reply.code = Response.proceed := by
      simp [Wanted, withPart, code, Opcode.put, Opcode.putFinal]
    simp only [submit, wanted]

theorem put_eq_submit [Peer π] (terms : Terms) (message : Message) :
    (put terms message : Action (Wire π) Interruption Unit) = submit (segments terms message) :=
  putRest_eq_submit (terms.code_address _)

/-! ## What the peer gets -/

/-- What was written to the stream opened last, or without one. -/
def Taped.written (taped : Taped π) : List Bytes :=
  match taped.streams with
  | [] => taped.strays
  | current :: _ => current.writes.map (·.1)

theorem Taped.written_write (octets : Bytes) (result : Except Interruption Reaction) (taped : Taped π) :
    (taped.write octets result).written = taped.written ++ [octets] := by
  rcases taped with ⟨reach, _ | ⟨current, older⟩, strays⟩
  · rfl
  · simp [Taped.write, written, Stream.write]

/-- A packet that is written so that it is read as what it is. -/
def Packet.Legible (packet : Packet) : Prop :=
  ∃ octets, packet.encode = .ok octets ∧ Packet.decode octets false = .ok packet

/-- Packets were written, one after the other, and nothing else. -/
def Sent (packets : List Packet) (before after : Wire (Taped π)) : Prop :=
  ∃ octets, after.peer.written = before.peer.written ++ octets ∧
    octets.map .ok = packets.map Packet.encode ∧
    octets.map (Packet.decode · false) = packets.map .ok

theorem Sent.refl (wire : Wire (Taped π)) : Sent [] wire wire :=
  ⟨[], by simp⟩

theorem Sent.append {more : List Packet} {before between after : Wire (Taped π)}
    (first : Sent packets before between) (second : Sent more between after) :
    Sent (packets ++ more) before after := by
  obtain ⟨octets, written, encoded, decoded⟩ := first
  obtain ⟨others, othersWritten, othersEncoded, othersDecoded⟩ := second
  refine ⟨octets ++ others, ?_, ?_, ?_⟩
  · rw [othersWritten, written, List.append_assoc]
  · rw [List.map_append, List.map_append, encoded, othersEncoded]
  · rw [List.map_append, List.map_append, decoded, othersDecoded]

/-- Whatever comes of a request, it is sent, and nothing else. -/
theorem sent_request [Reach π] (legible : packet.Legible) {wire after : Wire (Taped π)}
    {result : Except Interruption Packet} (requested : (request packet).on wire = (result, after)) :
    Sent [packet] wire after := by
  obtain ⟨octets, encoded, decoded⟩ := legible
  suffices written : after.peer.written = wire.peer.written ++ [octets] from
    ⟨[octets], written, by simp [encoded], by simp [decoded]⟩
  obtain ⟨answer, reach, sent⟩ := Wire.peer_send octets wire
  have peer : after.peer = ((Wire.send octets).stateAfter wire).peer := by
    have ended : after = ((request packet).on wire).2 := by rw [requested]
    rw [ended, request, on_bind, Packet.send, encoded, stateAfter]
    rcases (Wire.send octets).on wire with ⟨e | done, between⟩ <;> rfl
  rw [peer, sent]
  exact Taped.written_write octets answer _

/-! ## How putting ends -/

/-- Requests with their answers, the first one made over the first wire, and the second wire is the one
after the last answer. -/
inductive Answered [Peer π] : Wire π → List (Packet × Packet) → Wire π → Prop
  | nil (wire : Wire π) : Answered wire [] wire
  | cons {packet reply : Packet} {more : List (Packet × Packet)} {wire between after : Wire π}
      (first : (request packet).on wire = (.ok reply, between)) (others : Answered between more after) :
      Answered wire ((packet, reply) :: more) after

/-- The ways in which putting packets can end. -/
inductive Ended [Reach π] (packets : List Packet) (wire : Wire (Taped π)) :
    Except Interruption Unit → Wire (Taped π) → Prop
  /-- All were sent and answered as wanted. -/
  | accepted {asked : List (Packet × Packet)} {after : Wire (Taped π)}
      (answered : Answered wire asked after) (all : asked.map (·.1) = packets)
      (wanted : ∀ pair ∈ asked, Wanted pair.1 pair.2) (sent : Sent packets wire after) :
      Ended packets wire (.ok ()) after
  /-- The last one that was sent was answered in another way. -/
  | refused {asked : List (Packet × Packet)} {packet reply : Packet} {after : Wire (Taped π)}
      (answered : Answered wire (asked ++ [(packet, reply)]) after)
      (some : asked.map (·.1) ++ [packet] <+: packets)
      (wanted : ∀ pair ∈ asked, Wanted pair.1 pair.2) (unwanted : ¬ Wanted packet reply)
      (sent : Sent (asked.map (·.1) ++ [packet]) wire after) :
      Ended packets wire (.error (.failed (.obexResponse "PUT" reply.code.toNat))) after
  /-- The last one that was sent was not answered with a packet. -/
  | interrupted {asked : List (Packet × Packet)} {packet : Packet} {between after : Wire (Taped π)}
      {cause : Interruption} (answered : Answered wire asked between)
      (some : asked.map (·.1) ++ [packet] <+: packets)
      (wanted : ∀ pair ∈ asked, Wanted pair.1 pair.2)
      (failed : (request packet).on between = (.error cause, after))
      (sent : Sent (asked.map (·.1) ++ [packet]) wire after) :
      Ended packets wire (.error cause) after

section

variable [Reach π]

theorem Ended.cons {wire between after : Wire (Taped π)} {outcome : Except Interruption Unit}
    (ended : Ended packets between outcome after) (legible : packet.Legible)
    (requested : (request packet).on wire = (.ok reply, between)) (first : Wanted packet reply) :
    Ended (packet :: packets) wire outcome after := by
  have sentFirst := sent_request legible requested
  have allWanted {asked : List (Packet × Packet)} (wanted : ∀ pair ∈ asked, Wanted pair.1 pair.2) :
      ∀ pair ∈ (packet, reply) :: asked, Wanted pair.1 pair.2 :=
    List.forall_mem_cons.2 ⟨first, wanted⟩
  cases ended with
  | accepted answered all wanted sent =>
    exact .accepted (.cons requested answered) (by simp [all]) (allWanted wanted)
      (sentFirst.append sent)
  | @refused asked last answer after answered some wanted unwanted sent =>
    have answers : Answered wire ((packet, reply) :: asked ++ [(last, answer)]) after :=
      .cons requested answered
    exact .refused answers (by simpa using some) (allWanted wanted) unwanted (sentFirst.append sent)
  | @interrupted asked last between after cause answered some wanted failed sent =>
    have answers : Answered wire ((packet, reply) :: asked) between := .cons requested answered
    exact .interrupted answers (by simpa using some) (allWanted wanted) failed
      (sentFirst.append sent)

/-- Putting packets ends, whatever the peer does, and in one of the ways there are. -/
theorem ended_submit (legible : ∀ packet ∈ packets, packet.Legible) (wire : Wire (Taped π)) :
    Ended packets wire ((submit packets).on wire).1 ((submit packets).on wire).2 := by
  induction packets generalizing wire with
  | nil => exact .accepted (.nil wire) rfl (by simp) (.refl wire)
  | cons packet others inductionHypothesis =>
    obtain ⟨firstLegible, othersLegible⟩ := List.forall_mem_cons.1 legible
    rw [submit, on_bind]
    rcases requested : (request packet).on wire with ⟨cause | reply, between⟩
    · exact .interrupted (.nil wire) (by simp) (by simp) requested (sent_request firstLegible requested)
    · dsimp only
      split
      case isTrue wanted =>
        -- The others are put over the wire that the first answer left.
        exact (inductionHypothesis othersLegible between).cons firstLegible requested wanted
      case isFalse unwanted =>
        have answers : Answered wire ([] ++ [(packet, reply)]) between :=
          .cons requested (.nil between)
        exact .refused answers (by simp) (by simp) unwanted (sent_request firstLegible requested)

end

/-! ## Peers that want the message -/

/-- A wire to a peer that answers whatever is put to it as it is wanted, for good. -/
def Obliging [Peer π] (wire : Wire π) : Prop :=
  ∃ keeps : Wire π → Prop, keeps wire ∧ ∀ wire packet octets, keeps wire →
    packet.code = Opcode.put ∨ packet.code = Opcode.putFinal → packet.encode = .ok octets →
    ∃ reply after, (request packet).on wire = (.ok reply, after) ∧ Wanted packet reply ∧ keeps after

theorem Obliging.taped [Reach π] {wire : Wire (Taped π)}
    (obliging : Obliging (wire.plain Taped.reach)) : Obliging wire := by
  obtain ⟨keeps, holds, answers⟩ := obliging
  -- With a tape the peer answers what it answers without one.
  refine ⟨fun wire => keeps (wire.plain Taped.reach), holds, ?_⟩
  intro wire packet octets holds code encoded
  obtain ⟨reply, after, requested, wanted, kept⟩ := answers _ packet octets holds code encoded
  rw [mimics_request Taped.recorded.toRecorded packet wire] at requested
  obtain ⟨result, same⟩ := Prod.mk.inj requested
  refine ⟨reply, ((request packet).on wire).2, ?_, wanted, ?_⟩
  · rw [← result]
  · rw [← same] at kept
    exact kept

theorem Obliging.submit_eq_ok [Peer π] {wire : Wire π} (obliging : Obliging wire)
    (puts : ∀ packet ∈ packets, packet.code = Opcode.put ∨ packet.code = Opcode.putFinal)
    (writable : ∀ packet ∈ packets, ∃ octets, packet.encode = .ok octets) :
    ∃ after, (submit packets).on wire = (.ok (), after) := by
  obtain ⟨keeps, holds, answers⟩ := obliging
  induction packets generalizing wire with
  | nil => exact ⟨wire, rfl⟩
  | cons packet others inductionHypothesis =>
    obtain ⟨octets, encoded⟩ := writable packet List.mem_cons_self
    obtain ⟨reply, between, requested, wanted, kept⟩ :=
      answers wire packet octets holds (puts packet List.mem_cons_self) encoded
    obtain ⟨after, submitted⟩ := inductionHypothesis
      (fun other member => puts other (.tail _ member))
      (fun other member => writable other (.tail _ member)) kept
    refine ⟨after, ?_⟩
    rw [submit, on_bind, requested]
    dsimp only
    rw [if_pos wanted, submitted]

/-! ## Putting a message -/

/-- However long a message and whatever the terms, its packets convey it if they can be written at all.
Putting them ends with the last packet or the first answer that is not wanted, and a peer that wants the
message gets all of it. -/
theorem put_conveys_message [Reach π] (terms : Terms) (message : Message)
    (writable : ∀ segment ∈ segments terms message, segment.encodedLength < packetLimit)
    (wire : Wire (Taped π)) :
    Conveys (descriptions message) message.data (segments terms message) ∧
    (segments terms message).length ≤ max message.data.length 1 ∧
    (∃ outcome after, (put terms message).on wire = (outcome, after) ∧
      Ended (segments terms message) wire outcome after) ∧
    (Obliging (wire.plain Taped.reach) → ∃ after, (put terms message).on wire = (.ok (), after) ∧
      Sent (segments terms message) wire after) ∧
    Mimics (Wire.plain (Taped.reach (π := π))) (put terms message) (put terms message) := by
  have conveys := conveys_segments terms message
  have legible : ∀ segment ∈ segments terms message, segment.Legible := by
    intro segment member
    have belongs : segment.Belongs terms.connectionId :=
      belongs_segmentsFrom (Terms.belongs_firstPut message) segment member
    have small : segment.encodedLength ≤ 65535 := Nat.le_of_lt_succ (writable segment member)
    simpa [Packet.Legible, belongs.connect_eq] using
      Packet.decode_encode_of_small belongs.canonical small
  have ended := ended_submit legible wire
  rw [← put_eq_submit] at ended
  refine ⟨conveys, length_segmentsFrom_le _ _ _, ⟨_, _, rfl, ended⟩, fun obliging => ?_, ?_⟩
  · -- No other end than that of an accepted message is a success.
    obtain ⟨after, submitted⟩ := obliging.taped.submit_eq_ok conveys.code_mem fun segment member =>
      (legible segment member).imp fun _ => And.left
    rw [← put_eq_submit] at submitted
    rw [submitted] at ended
    cases ended with
    | accepted _ _ _ sent => exact ⟨after, submitted, sent⟩
  · exact mimics_putRest (Taped.recorded (π := π)).toRecorded _ _ _

/-- A peer that agrees to everything. -/
structure Agreeable where

instance : Peer Agreeable where
  react bytes := .of fun peer =>
    let code := if bytes.head? = some Opcode.put then Response.proceed else Response.success
    (.ok { sent := [code, 0, 3] }, peer)
  stamina _ := 0

instance : Reach Agreeable where
  discover _ := pure 1
  link _ _ := pure {}

theorem receive_bare (code : UInt8) :
    (Packet.receive false).on { unread := [code, 0, 3] } = (.ok { code }, {}) := by
  have decoded : Packet.decode [code, 0, 3] false = .ok { code } :=
    Packet.decode_eq_ok_iff.2 ⟨0, 3, [], [], rfl, rfl, rfl, by rw [Header.readAll]⟩
  simp [Packet.receive, on_bind, Inbox.take, Bytes.toNat, decoded]

theorem obliging_agreeable : Obliging ({ peer := {} } : Wire Agreeable) := by
  refine ⟨fun wire => wire.inbox = {}, rfl, ?_⟩
  rintro ⟨peer, inbox⟩ packet octets ⟨⟩ code encoded
  -- The answer depends on nothing but the first octet, which is the code.
  have first : octets.head? = some packet.code := by
    rw [(Packet.encode_eq_ok_iff.1 encoded).2, Packet.octets, List.head?_cons]
  let answer : UInt8 := if packet.code = Opcode.put then Response.proceed else Response.success
  have requested : (request packet).on { peer, inbox := {} } =
      (.ok { code := answer }, ({ peer } : Wire Agreeable)) := by
    simp [request, on_bind, Packet.send, encoded, Wire.send, Peer.react, first, Wire.reading,
      on_within, Inbox.receive, receive_bare, answer]
  refine ⟨{ code := answer }, { peer }, requested, ?_, rfl⟩
  obtain put | final := code
  · simp [Wanted, answer, put, Opcode.put, Opcode.putFinal]
  · simp [Wanted, answer, final, Opcode.put, Opcode.putFinal]

/-- Three packets carry 500 octets over a connection with packets of the least size. -/
theorem agreeable_peer_gets_message :
    (segments ⟨some 7, 255⟩ ⟨List.replicate 500 0, ContentType.xml⟩).length = 3 ∧
    ∃ after : Wire (Taped Agreeable),
      (put ⟨some 7, 255⟩ ⟨List.replicate 500 0, ContentType.xml⟩).on { peer := { reach := {} } } =
        (.ok (), after) ∧
      Sent (segments ⟨some 7, 255⟩ ⟨List.replicate 500 0, ContentType.xml⟩)
        { peer := { reach := {} } } after :=
  ⟨by decide +kernel, (put_conveys_message _ _ (by decide +kernel) _).2.2.2.1 obliging_agreeable⟩

end DataSync.Obex
