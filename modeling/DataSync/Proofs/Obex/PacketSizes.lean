import DataSync.Proofs.Obex.TidyStreams
import Mathlib.Algebra.GroupWithZero.Nat

/-!
# Sizes of packets

The parts of a message are cut to the size that the peer accepts.  Whatever else there is in a packet
takes its size from the connection or from the type of the message.  The type is never cut, and nobody
asks how long it is: if it leaves no room for an octet of the message, the first packet is too long, and
perhaps the request for the answer, too.  All other packets have the size that they may have.
-/

namespace DataSync.Obex

open DataSync.Action

variable {π : Type} {terms : Terms} {message : Message} {packet first reply : Packet} {rest : Bytes}

/-! ## Lengths -/

theorem Packet.encodedLength_append (packet : Packet) (code : UInt8) (headers : List Header) :
    encodedLength { packet with code, headers := packet.headers ++ headers } =
      packet.encodedLength + (headers.map Header.encodedLength).sum := by
  unfold encodedLength
  dsimp only
  induction packet.headers with
  | nil =>
    rw [List.nil_append, List.foldr_nil]
    induction headers with
    | nil => rfl
    | cons header others inductionHypothesis =>
      rw [List.foldr_cons, inductionHypothesis, List.map_cons, List.sum_cons]
      omega
  | cons header others inductionHypothesis =>
    rw [List.cons_append, List.foldr_cons, List.foldr_cons, inductionHypothesis]
    omega

/-- The octets that each packet of a connection starts with. -/
def Terms.overhead (terms : Terms) : Nat :=
  3 + if terms.connectionId.isSome then 5 else 0

theorem Terms.overhead_le (terms : Terms) : terms.overhead ≤ 8 := by
  unfold overhead
  split <;> omega

theorem encodedLength_address (terms : Terms) (code : UInt8) :
    (terms.address { code }).encodedLength = terms.overhead := by
  unfold Terms.address Terms.overhead
  cases terms.connectionId <;> rfl

theorem encodedLength_firstPut (terms : Terms) (message : Message) :
    (firstPut terms message).encodedLength = terms.overhead + message.contentType.utf8ByteSize + 9 := by
  refine (Packet.encodedLength_append _ _ _).trans ?_
  rw [encodedLength_address]
  simp [Header.encodedLength]
  omega

theorem encodedLength_firstGet (terms : Terms) (mime : String) :
    (firstGet terms mime).encodedLength = terms.overhead + mime.utf8ByteSize + 4 := by
  refine (Packet.encodedLength_append _ _ _).trans ?_
  rw [encodedLength_address]
  simp [Header.encodedLength]
  omega

theorem encodedLength_withPart (packet : Packet) (part : Bytes) :
    (withPart packet part).encodedLength = packet.encodedLength + 3 + part.length := by
  refine (Packet.encodedLength_append _ _ _).trans ?_
  simp [Header.encodedLength]
  omega

theorem encodedLength_withLastPart (packet : Packet) (part : Bytes) :
    (withLastPart packet part).encodedLength = packet.encodedLength + 3 + part.length := by
  refine (Packet.encodedLength_append _ _ _).trans ?_
  simp [Header.encodedLength]
  omega

/-! ## Segments -/

theorem encodedLength_of_head (isFirst : (segmentsFrom terms packet rest).head? = some first) :
    first.encodedLength = packet.encodedLength + 3 + min rest.length (room terms packet) := by
  unfold segmentsFrom at isFirst
  split at isFirst
  · cases isFirst
    rw [encodedLength_withLastPart]
    omega
  · cases isFirst
    rw [encodedLength_withPart, List.length_take]
    omega

theorem roomy_nextPut (least : 255 ≤ terms.maxPacket) :
    (nextPut terms).encodedLength + 3 < terms.maxPacket := by
  have := terms.overhead_le
  rw [nextPut, encodedLength_address]
  omega

/-- Where there is room for a part of the message no packet is too long. -/
theorem encodedLength_le_of_roomy (least : 255 ≤ terms.maxPacket)
    (roomy : packet.encodedLength + 3 < terms.maxPacket) :
    ∀ segment ∈ segmentsFrom terms packet rest, segment.encodedLength ≤ terms.maxPacket := by
  fun_induction segmentsFrom with
  | case1 packet rest all =>
    simp only [List.mem_singleton, forall_eq, encodedLength_withLastPart]
    unfold room at all
    omega
  | case2 packet rest more inductionHypothesis =>
    have part : (rest.take (room terms packet)).length ≤ room terms packet := List.length_take_le _ _
    simp only [List.forall_mem_cons, encodedLength_withPart]
    refine ⟨?_, inductionHypothesis (roomy_nextPut least)⟩
    -- The room is what is left of the size, since that is more than the one octet there always is.
    unfold room at part ⊢
    omega

/-- The first packet of a message has room for an octet of it, if there is one. -/
def Fits (terms : Terms) (message : Message) : Prop :=
  terms.overhead + message.contentType.utf8ByteSize + 12 + min message.data.length 1 ≤ terms.maxPacket

theorem encodedLength_le_iff_fits (isFirst : (segments terms message).head? = some first) :
    first.encodedLength ≤ terms.maxPacket ↔ Fits terms message := by
  rw [encodedLength_of_head isFirst, room, encodedLength_firstPut, Fits]
  -- If the headers fill the packet, an octet of the message is put in nevertheless.
  omega

theorem encodedLength_le_of_later (least : 255 ≤ terms.maxPacket) :
    ∀ segment ∈ (segments terms message).tail, segment.encodedLength ≤ terms.maxPacket := by
  unfold segments segmentsFrom
  split
  · simp
  · exact encodedLength_le_of_roomy least (roomy_nextPut least)

/-- A request is not too long if the first packet of its message is not, or that of the message whose
answer it asks for. -/
theorem Asked.encodedLength_le {takes : String → Prop} {progress : Option String}
    (asked : Asked takes terms progress packet) (least : 255 ≤ terms.maxPacket)
    (begins : ∀ message, takes message.contentType → (segments terms message).head? = some packet →
      Fits terms message)
    (begun : ∀ mime ∈ progress, ∃ message, message.contentType = mime ∧ Fits terms message) :
    packet.encodedLength ≤ terms.maxPacket := by
  cases asked with
  | @put _ message _ taken part =>
    obtain ⟨first, more, parts⟩ := exists_segments terms message
    have isFirst : (segments terms message).head? = some first := by rw [parts, List.head?_cons]
    rw [parts] at part
    obtain rfl | later := List.mem_cons.1 part
    · exact (encodedLength_le_iff_fits isFirst).2 (begins message taken isFirst)
    · exact encodedLength_le_of_later least packet (by rwa [parts])
  | get mime =>
    -- The request holds less than the first packet of the message, which has the same type.
    obtain ⟨message, rfl, fits⟩ := begun mime rfl
    unfold Fits at fits
    rw [encodedLength_firstGet]
    omega
  | getMore | disconnect =>
    have := terms.overhead_le
    rw [encodedLength_address]
    omega

/-! ## Streams -/

/-- The size that the peer accepts, but not more than this side asks for and not less than every side
accepts. -/
def limit (reply : Packet) : Nat :=
  max 255 (min (reply.connect.elim 0 (·.maxPacket.toNat)) 0x2000)

theorem maxPacket_ofResponse (reply : Packet) : (Terms.ofResponse reply).maxPacket = limit reply := by
  unfold Terms.ofResponse limit
  cases reply.connect with
  | none => rfl
  | some parameters =>
    simp only [Option.elim, minPacketSize, localMaxPacket]
    change min _ 8192 = _
    omega

theorem least_ofResponse (reply : Packet) : 255 ≤ (Terms.ofResponse reply).maxPacket := by
  rw [maxPacket_ofResponse]
  exact Nat.le_max_left _ _

namespace Stream

/-- No packet after the request for the connection is longer than the peer accepts. -/
def WithinLimit (stream : Stream) : Prop :=
  ∀ write ∈ stream.writes.tail, ∃ reply, stream.response? = some reply ∧
    write.1.length ≤ limit reply

/-- The first packet of a message was written. -/
def Puts (stream : Stream) (message : Message) : Prop :=
  ∃ reply, stream.response? = some reply ∧ ∃ write ∈ stream.writes.tail, ∃ first,
    (segments (.ofResponse reply) message).head? = some first ∧ first.encode = .ok write.1

/-- The first packet of a message would not be longer than the peer accepts. -/
def HasRoomFor (stream : Stream) (message : Message) : Prop :=
  ∀ reply, stream.response? = some reply → Fits (.ofResponse reply) message

/-- A message was put, at least in part, if there is one of a type that should be. -/
def HasBegun (takes : String → Prop) (progress : Option String) (stream : Stream) : Prop :=
  ∀ mime ∈ progress, ∃ message, message.contentType = mime ∧ takes mime ∧ stream.Puts message

/-- Every packet after the request for the connection was asked for in its turn. -/
def Accounted (takes : String → Prop) (stream : Stream) : Prop :=
  ∀ write ∈ stream.writes.tail, ∃ reply progress packet, stream.response? = some reply ∧
    Asked takes (.ofResponse reply) progress packet ∧ packet.encode = .ok write.1 ∧
    stream.HasBegun takes progress

variable {stream : Stream} {takes : String → Prop} {progress : Option String}

theorem mem_tail_write (response : stream.response? = some reply) (octets : Bytes)
    (result : Except Interruption Reaction) (write : Bytes × Except Interruption Reaction) :
    write ∈ (stream.write octets result).writes.tail ↔
      write ∈ stream.writes.tail ∨ write = (octets, result) := by
  obtain ⟨bytes, reaction, rest, writes⟩ := exists_cons_of_response response
  simp [Stream.write, writes]

theorem Puts.write (puts : stream.Puts message) (octets : Bytes) (result : Except Interruption Reaction) :
    (stream.write octets result).Puts message := by
  obtain ⟨reply, response, write, member, first, isFirst, encoded⟩ := puts
  exact ⟨reply, response?_write response octets result, write,
    (mem_tail_write response octets result write).2 (.inl member), first, isFirst, encoded⟩

theorem HasBegun.write (begun : stream.HasBegun takes progress) (octets : Bytes)
    (result : Except Interruption Reaction) : (stream.write octets result).HasBegun takes progress := by
  intro mime member
  obtain ⟨message, typed, taken, puts⟩ := begun mime member
  exact ⟨message, typed, taken, puts.write octets result⟩

/-- What is within the limit of a stream is decided by the messages that were put on it. -/
theorem Accounted.withinLimit (accounted : stream.Accounted takes)
    (fits : ∀ message, takes message.contentType → stream.Puts message → stream.HasRoomFor message) :
    stream.WithinLimit := by
  intro write member
  obtain ⟨reply, progress, packet, response, asked, encoded, begun⟩ := accounted write member
  refine ⟨reply, response, ?_⟩
  rw [Packet.length_of_encode encoded, ← maxPacket_ofResponse]
  apply asked.encodedLength_le (least_ofResponse reply)
  · intro message taken isFirst
    have puts : stream.Puts message := ⟨reply, response, write, member, packet, isFirst, encoded⟩
    exact fits message taken puts reply response
  · intro mime named
    obtain ⟨message, rfl, taken, puts⟩ := begun mime named
    exact ⟨message, rfl, fits message taken puts reply response⟩

theorem WithinLimit.hasRoomFor (within : stream.WithinLimit) (puts : stream.Puts message) :
    stream.HasRoomFor message := by
  obtain ⟨reply, response, write, member, first, isFirst, encoded⟩ := puts
  intro other same
  obtain ⟨_, again, small⟩ := within write member
  cases response.symm.trans same
  cases response.symm.trans again
  rw [Packet.length_of_encode encoded, ← maxPacket_ofResponse] at small
  exact (encodedLength_le_iff_fits isFirst).1 small

end Stream

/-- Agents account for what they write. -/
def Discipline.accounting (takes : String → Prop) : Discipline where
  takes := takes
  good := Stream.Accounted takes
  stage terms progress stream := ∃ reply, stream.response? = some reply ∧
    terms = .ofResponse reply ∧ stream.HasBegun takes progress
  good_opened _ _ _ _ := nofun
  stage_accepted response _ := ⟨_, response, rfl, nofun⟩
  stage_begun {_ message stream first octets} result stage taken isFirst encoded := by
    obtain ⟨reply, response, rfl, -⟩ := stage
    have written : (octets, result) ∈ (stream.write octets result).writes.tail :=
      (Stream.mem_tail_write response octets result _).2 (.inr rfl)
    have response := Stream.response?_write response octets result
    have puts : (stream.write octets result).Puts message :=
      ⟨reply, response, _, written, first, isFirst, encoded⟩
    refine ⟨reply, response, rfl, ?_⟩
    rintro _ ⟨⟩
    exact ⟨message, rfl, taken, puts⟩
  stage_write octets result stage := by
    obtain ⟨reply, response, rfl, begun⟩ := stage
    exact ⟨reply, Stream.response?_write response octets result, rfl, begun.write octets result⟩
  stage_none stage := by
    obtain ⟨reply, response, rfl, -⟩ := stage
    exact ⟨reply, response, rfl, nofun⟩
  good_write {_ progress stream packet octets} result accounted stage asked encoded := by
    obtain ⟨reply, response, rfl, begun⟩ := stage
    intro write member
    obtain before | rfl := (Stream.mem_tail_write response octets result write).1 member
    · obtain ⟨reply, progress, packet, response, asked, encoded, begun⟩ := accounted write before
      exact ⟨reply, progress, packet, Stream.response?_write response octets result, asked, encoded,
        begun.write octets result⟩
    · exact ⟨reply, progress, packet, Stream.response?_write response octets result, asked, encoded,
        begun.write octets result⟩

/-! ## Agents -/

namespace ObexAgent

variable [Reach π] {takes : String → Prop} {agent : ObexAgent (Taped π)}

/-- An agent that accounts for what it writes, and has messages of types that are taken only. -/
structure Accounts (takes : String → Prop) (agent : ObexAgent (Taped π)) : Prop where
  link : (Discipline.accounting takes).Governs [] agent.link
  contentType : takes agent.core.contentType
  pending : ∀ message ∈ agent.pending, takes message.contentType

theorem Accounts.wait (accounts : agent.Accounts takes) (noReply : Bool) :
    Accounts takes (Agent.wait noReply agent).2 := by
  by_cases active : agent.core.status = .active
  · cases pending : agent.pending with
    | none =>
      simp only [Agent.wait, active, ne_eq, not_true_eq_false, if_false, pending]
      exact ⟨accounts.link, by simpa using accounts.contentType, nofun⟩
    | some message =>
      cases addressed : agent.address with
      | none =>
        simp only [Agent.wait, active, ne_eq, not_true_eq_false, if_false, pending, addressed]
        exact ⟨accounts.link, by simpa using accounts.contentType, nofun⟩
      | some address =>
        have driven := agent.core.drive_keeps
          (Discipline.keeps_exchange address (accounts.pending message pending) noReply) accounts.link
        rw [wait_active active pending addressed]
        refine ⟨?_, by simpa [AgentCore.elapse] using accounts.contentType, nofun⟩
        -- Only a completed exchange leaves its connection.
        dsimp only
        split
        · exact driven
        · exact driven.reset.1
  · rwa [show Agent.wait noReply agent = (agent.core.status, agent) from if_pos active]

theorem Accounts.perform (accounts : agent.Accounts takes) (call : AgentCall)
    (taken : ∀ mime, call = .setContentType mime → takes mime) :
    Accounts takes (call.perform agent) := by
  cases call with
  | setUrl url =>
    simp only [AgentCall.perform, stateAfter, Agent.setUrl, on_of]
    cases Address.parse url with
    | error e => exact accounts
    | ok address =>
      refine ⟨?_, accounts.contentType, accounts.pending⟩
      dsimp only
      split
      · exact accounts.link
      · exact accounts.link.reset.1
  | setContentType mime => exact ⟨accounts.link, taken mime rfl, accounts.pending⟩
  | send data =>
    simp only [AgentCall.perform, stateAfter, Agent.send, on_of]
    cases begun : agent.core.beginSend true with
    | error e => exact accounts
    | ok core =>
      obtain ⟨-, -, rfl⟩ := AgentCore.beginSend_eq_ok.1 begun
      refine ⟨accounts.link, accounts.contentType, ?_⟩
      rintro _ ⟨⟩
      exact accounts.contentType
  | cancel =>
    simp only [AgentCall.perform, Agent.cancel]
    split
    · exact ⟨accounts.link.reset.1, accounts.contentType, fun _ message => by cases message⟩
    · exact accounts
  | wait noReply => exact accounts.wait noReply
  | shutdown => exact ⟨accounts.link.leave.1, accounts.contentType, fun _ message => by cases message⟩
  | _ => exact ⟨accounts.link, accounts.contentType, accounts.pending⟩

theorem Accounts.after (accounts : agent.Accounts takes) (calls : List AgentCall)
    (taken : ∀ mime, .setContentType mime ∈ calls → takes mime) :
    Accounts takes (Agent.after calls agent) := by
  induction calls generalizing agent with
  | nil => exact accounts
  | cons call later inductionHypothesis =>
    apply inductionHypothesis
    · refine accounts.perform call ?_
      rintro mime rfl
      exact taken mime List.mem_cons_self
    · exact fun mime member => taken mime (.tail _ member)

/-- Whatever the peers within reach do, the packets that an agent writes to a stream are not longer than
the peer accepts exactly if every message that is put there has a type that leaves room for an octet of
it.  Types of up to 234 octets always do. -/
theorem packets_within_limit_iff (reach : π) (calls : List AgentCall) :
    (Agent.after calls (taped reach)).plain Taped.reach = Agent.after calls { link := { reach } } ∧
    (Agent.after calls (taped reach)).link.reach.strays = [] ∧
    ∀ stream ∈ (Agent.after calls (taped reach)).link.reach.streams,
      (stream.WithinLimit ↔ ∀ message, stream.Puts message → stream.HasRoomFor message) ∧
      ((∀ mime, .setContentType mime ∈ calls → mime.utf8ByteSize ≤ 234) → stream.WithinLimit) := by
  let takes (mime : String) : Prop := mime = ContentType.xml ∨ .setContentType mime ∈ calls
  have unused : Accounts takes (taped reach) :=
    ⟨⟨rfl, [], rfl, nofun, nofun⟩, .inl rfl, nofun⟩
  have accounts := unused.after calls fun mime member => .inr member
  obtain ⟨noStrays, newer, streams, allAccounted, -⟩ := accounts.link
  refine ⟨(after_plain Taped.recorded calls (taped reach)).symm, noStrays, fun stream opened => ?_⟩
  have accounted : stream.Accounted takes := by
    rw [streams, List.append_nil] at opened
    exact allAccounted stream opened
  refine ⟨⟨fun within message => within.hasRoomFor, fun fits => ?_⟩, fun short => ?_⟩
  · exact accounted.withinLimit fun message _ => fits message
  · refine accounted.withinLimit fun message taken _ reply _ => ?_
    have small : message.contentType.utf8ByteSize ≤ 234 := by
      obtain xml | set := taken
      · rw [xml]
        decide
      · exact short _ set
    have := least_ofResponse reply
    have := (Terms.ofResponse reply).overhead_le
    unfold Fits
    omega

/-- Peers of which the first accepts packets of 255 octets and knows the connection by a number. -/
def narrow : ScriptedReach :=
  { linking := .scripted [
      .ok [{ bytes := [0xA0, 0, 12, 0x10, 0, 0, 255, 0xCB, 0, 0, 0, 7] }, { bytes := [0x90, 0, 3] },
        { bytes := [0xA0, 0, 3] }, { bytes := [0xA0, 0, 3] }]] }

theorem short_type_within_limit :
    ∃ stream ∈ (Agent.after [.setUrl "obex-tcp://phone", .setContentType ContentType.wbxml,
      .send (List.replicate 400 0), .wait false] (taped narrow)).link.reach.streams,
      stream.writes.tail.map (·.1.length) = [255, 204, 40] ∧ stream.WithinLimit := by
  have lengths : [255, 204, 40] ∈ (Agent.after [.setUrl "obex-tcp://phone",
      .setContentType ContentType.wbxml, .send (List.replicate 400 0), .wait false]
      (taped narrow)).link.reach.streams.map (·.writes.tail.map (·.1.length)) := by
    decide +kernel
  obtain ⟨stream, opened, lengths⟩ := List.mem_map.1 lengths
  refine ⟨stream, opened, lengths, ((packets_within_limit_iff narrow _).2.2 stream opened).2 ?_⟩
  intro mime member
  have same : mime = ContentType.wbxml := by
    simpa only [List.mem_cons, reduceCtorEq, AgentCall.setContentType.injEq, List.not_mem_nil,
      false_or, or_false] using member
  rw [same]
  decide

theorem long_type_exceeds_limit :
    ∃ stream ∈ (Agent.after [.setUrl "obex-tcp://phone",
      .setContentType (String.ofList (List.replicate 235 'a')), .send [1, 2], .wait false]
      (taped narrow)).link.reach.streams,
      stream.response?.map limit = some 255 ∧ stream.writes.tail.map (·.1.length) = [256, 12, 247] ∧
      ¬ stream.WithinLimit := by
  have lengths : (some 255, [256, 12, 247]) ∈ (Agent.after [.setUrl "obex-tcp://phone",
      .setContentType (String.ofList (List.replicate 235 'a')), .send [1, 2], .wait false]
      (taped narrow)).link.reach.streams.map fun stream =>
        (stream.response?.map limit, stream.writes.tail.map (·.1.length)) := by
    decide +kernel
  obtain ⟨stream, opened, same⟩ := List.mem_map.1 lengths
  obtain ⟨accepted, lengths⟩ := Prod.mk.inj same
  refine ⟨stream, opened, accepted, lengths, fun within => ?_⟩
  obtain ⟨write, member, long⟩ := List.mem_map.1 (lengths ▸ List.mem_cons_self : 256 ∈ _)
  obtain ⟨reply, response, small⟩ := within write member
  rw [response] at accepted
  have exact : limit reply = 255 := Option.some.inj accepted
  omega

end ObexAgent

end DataSync.Obex
