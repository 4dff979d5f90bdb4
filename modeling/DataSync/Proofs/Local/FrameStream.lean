import DataSync.Proofs.Local.MessageRoundTrip
import DataSync.Rehearsal.Recorder

/-!
# Streams of frames

Frames mark their own ends: messages that are sent one after the other through a pipe are received one
after the other, and after the last one nothing more.
-/

namespace DataSync.Local

open DataSync.Action

namespace Frame

variable {μ : Type} [Framed μ] {message : μ} {octets : Bytes}

theorem encode_eq_ok :
    encode message = .ok octets ↔
      (Cbor.write (Framed.toValue message)).length ≤ frameLimit ∧
        octets = Bytes.ofLong (Cbor.write (Framed.toValue message)).length ++
          Cbor.write (Framed.toValue message) := by
  unfold encode
  dsimp only
  split
  · rename_i small
    exact ⟨fun same => ⟨small, (Except.ok.inj same).symm⟩, fun ⟨_, same⟩ => by rw [same]⟩
  · rename_i large
    refine ⟨fun same => ?_, fun ⟨small, _⟩ => absurd small large⟩
    cases same

theorem length_ofLong (n : Nat) : (Bytes.ofLong n).length = 4 := rfl

/-- The octets of messages, frame after frame. -/
def encodeAll : List μ → Except TransportError Bytes
  | [] => .ok []
  | message :: rest => do return (← encode message) ++ (← encodeAll rest)

theorem encodeAll_cons_eq_ok {messages : List μ} :
    encodeAll (message :: messages) = .ok octets ↔
      ∃ first others, encode message = .ok first ∧ encodeAll messages = .ok others ∧
        octets = first ++ others := by
  rw [encodeAll, bind_eq_ok_iff]
  constructor
  · rintro ⟨first, encoded, later⟩
    obtain ⟨others, encodedOthers, same⟩ := bind_eq_ok_iff.1 later
    exact ⟨first, others, encoded, encodedOthers, (Except.ok.inj same).symm⟩
  · rintro ⟨first, others, encoded, encodedOthers, rfl⟩
    exact ⟨first, encoded, bind_eq_ok_iff.2 ⟨others, encodedOthers, rfl⟩⟩

theorem encodeAll_concat {messages : List μ} {frame : Bytes} (encoded : encodeAll messages = .ok octets)
    (encodedLast : encode message = .ok frame) :
    encodeAll (messages ++ [message]) = .ok (octets ++ frame) := by
  induction messages generalizing octets with
  | nil =>
    cases encoded
    exact encodeAll_cons_eq_ok.2 ⟨frame, [], encodedLast, rfl, by simp⟩
  | cons first rest inductionHypothesis =>
    obtain ⟨firstFrame, others, encodedFirst, encodedOthers, rfl⟩ := encodeAll_cons_eq_ok.1 encoded
    exact encodeAll_cons_eq_ok.2
      ⟨firstFrame, others ++ frame, encodedFirst, inductionHypothesis encodedOthers, by simp⟩

theorem exists_encodeAll {messages : List μ}
    (small : ∀ message ∈ messages, (Cbor.write (Framed.toValue message)).length ≤ frameLimit) :
    ∃ octets, encodeAll messages = .ok octets := by
  induction messages with
  | nil => exact ⟨[], rfl⟩
  | cons message rest inductionHypothesis =>
    obtain ⟨others, encodedOthers⟩ := inductionHypothesis fun other member =>
      small other (.tail _ member)
    exact ⟨_, encodeAll_cons_eq_ok.2 ⟨_, others,
      encode_eq_ok.2 ⟨small message List.mem_cons_self, rfl⟩, encodedOthers, rfl⟩⟩

/-! ## Sending -/

/-- A recorder that is not broken keeps all that is sent to it. -/
theorem on_forM_send {messages : List μ} (encoded : encodeAll messages = .ok octets)
    (received : Bytes) :
    (forM messages send).on ({ peer := { received } } : Wire Recorder) =
      (.ok (), { peer := { received := received ++ octets } }) := by
  induction messages generalizing octets received with
  | nil =>
    cases encoded
    simp
  | cons message rest inductionHypothesis =>
    obtain ⟨first, others, encodedFirst, encodedOthers, rfl⟩ := encodeAll_cons_eq_ok.1 encoded
    have sentFirst : (send message).on ({ peer := { received } } : Wire Recorder) =
        (.ok (), { peer := { received := received ++ first } }) := by
      simp [send, encodedFirst, Wire.send, Peer.react, Inbox.receive]
    have sentOthers := inductionHypothesis encodedOthers (received ++ first)
    rw [List.forM_cons, on_bind, sentFirst]
    simpa using sentOthers

/-! ## Receiving -/

theorem on_receiveLength {n : Nat} (small : n < 4294967296) (rest : Bytes) (ended : Bool) :
    receiveLength.on { unread := Bytes.ofLong n ++ rest, ended } =
      (.ok (some n), { unread := rest, ended }) := by
  have enough : ¬ (Bytes.ofLong n ++ rest).length < 4 := by
    rw [List.length_append, length_ofLong]
    omega
  simp only [receiveLength, on_of, enough, if_false, List.take_left' (length_ofLong n),
    List.drop_left' (length_ofLong n), Bytes.toNat_ofLong small]

/-- At the end of a stream there is no frame. -/
theorem on_receive_at_end :
    (receive (μ := μ)).on { unread := [], ended := true } =
      (.ok none, { unread := [], ended := true }) := by
  simp [receive, receiveLength, on_bind]

/-- A frame of which not all octets are there is lost with them.  At the end of the stream that is an
error only if its length is there. -/
theorem on_receive_cut {unread : Bytes} (encoded : encode message = .ok octets)
    (within : unread <+: octets) (cut : unread.length < octets.length) (ended : Bool) :
    (receive (μ := μ)).on { unread, ended } =
      (if ended then if unread.length < 4 then .ok none else .error (.failed (.io .cutShort))
        else .error .stalled, { unread := [], ended }) := by
  obtain ⟨small, rfl⟩ := encode_eq_ok.1 encoded
  set payload := Cbor.write (Framed.toValue message)
  rw [List.length_append, length_ofLong] at cut
  -- The cut is in the length in front of the payload, or in the payload.
  by_cases headed : unread.length < 4
  · rw [receive, on_bind]
    cases ended <;> simp [receiveLength, headed]
  · obtain ⟨taken, rfl, short⟩ : ∃ taken, unread = Bytes.ofLong payload.length ++ taken ∧
        taken.length < payload.length := by
      obtain ⟨taken, rfl⟩ := List.prefix_of_prefix_length_le (List.prefix_append _ _) within
        (by rw [length_ofLong]; omega)
      rw [List.length_append, length_ofLong] at cut
      exact ⟨taken, rfl, by omega⟩
    have limits : frameLimit < 4294967296 := by decide
    rw [if_neg headed, receive, on_bind, on_receiveLength (by omega)]
    cases ended <;> simp [on_bind, Inbox.take, Nat.not_lt.2 small, short]

/-- Before the octets of a frame are all there, nothing is received. -/
theorem on_receive_of_cut {unread : Bytes} (encoded : encode message = .ok octets)
    (within : unread <+: octets) (cut : unread.length < octets.length) (ended : Bool) (got : μ)
    (after : Inbox) : (receive (μ := μ)).on { unread, ended } ≠ (.ok (some got), after) := by
  rw [on_receive_cut encoded within cut ended]
  intro received
  split_ifs at received <;> cases received

variable [LawfulFramed μ]

/-- The next frame of a stream holds the message that was sent, and what follows it stays. -/
theorem on_receive (encoded : encode message = .ok octets) (rest : Bytes) (ended : Bool) :
    (receive (μ := μ)).on { unread := octets ++ rest, ended } =
      (.ok (some message), { unread := rest, ended }) := by
  obtain ⟨small, rfl⟩ := encode_eq_ok.1 encoded
  have limits : frameLimit < 4294967296 := by decide
  have decoded := LawfulFramed.decode?_write message small
  rw [List.append_assoc, receive, on_bind, on_receiveLength (by omega)]
  simp [on_bind, Inbox.on_take, Nat.not_lt.2 small, decoded]

/-- Frames mark their own ends. -/
theorem encode_append_inj {other : μ} {otherOctets rest otherRest : Bytes}
    (encoded : encode message = .ok octets) (encodedOther : encode other = .ok otherOctets)
    (same : octets ++ rest = otherOctets ++ otherRest) : message = other ∧ rest = otherRest := by
  have received := on_receive encoded rest false
  rw [same, on_receive encodedOther] at received
  cases received
  exact ⟨rfl, rfl⟩

/-- What is received from the front of a stream of frames is the message of the first one. -/
theorem receive_of_within {coming : List μ} {unread others : Bytes} {ended : Bool} {got : μ}
    {after : Inbox} (encoded : encodeAll coming = .ok others) (within : unread <+: others)
    (received : (receive (μ := μ)).on { unread, ended } = (.ok (some got), after)) :
    ∃ later frame, coming = got :: later ∧ encode got = .ok frame ∧
      unread = frame ++ after.unread := by
  cases coming with
  | nil =>
    cases encoded
    obtain rfl := List.prefix_nil.1 within
    cases ended <;> simp [receive, receiveLength, on_bind] at received
  | cons first later =>
    obtain ⟨frame, frames, encodedFirst, -, rfl⟩ := encodeAll_cons_eq_ok.1 encoded
    by_cases complete : frame.length ≤ unread.length
    · obtain ⟨rest, rfl⟩ :=
        List.prefix_of_prefix_length_le (List.prefix_append _ _) within complete
      rw [on_receive encodedFirst] at received
      cases received
      exact ⟨later, frame, rfl, encodedFirst, rfl⟩
    · have cut := List.prefix_of_prefix_length_le within (List.prefix_append frame frames) (by omega)
      exact absurd received (on_receive_of_cut encodedFirst cut (by omega) ended got after)

/-- What is left of a stream of frames after some of them were read is a stream of the others. -/
theorem rest_of_within {heard said : List μ} {read unread stream : Bytes}
    (encodedHeard : encodeAll heard = .ok read) (encodedSaid : encodeAll said = .ok stream)
    (within : read ++ unread <+: stream) :
    ∃ rest others, said = heard ++ rest ∧ encodeAll rest = .ok others ∧ unread <+: others := by
  -- As long as messages were heard, both streams begin with the same frame.
  induction heard generalizing read said stream with
  | nil =>
    cases encodedHeard
    exact ⟨said, stream, rfl, encodedSaid, within⟩
  | cons first heard inductionHypothesis =>
    obtain ⟨frame, frames, encodedFirst, encodedFrames, rfl⟩ := encodeAll_cons_eq_ok.1 encodedHeard
    obtain ⟨beyond, rfl⟩ := within
    cases said with
    | nil =>
      obtain ⟨-, rfl⟩ := encode_eq_ok.1 encodedFirst
      simp [encodeAll, Bytes.ofLong] at encodedSaid
    | cons other said =>
      obtain ⟨otherFrame, otherFrames, encodedOther, encodedOthers, same⟩ :=
        encodeAll_cons_eq_ok.1 encodedSaid
      simp only [List.append_assoc] at same
      obtain ⟨rfl, sameRest⟩ := encode_append_inj encodedFirst encodedOther same
      obtain ⟨rest, others, rfl, encodedRest, left⟩ := inductionHypothesis encodedFrames encodedOthers
        ⟨beyond, by rw [← sameRest]; simp only [List.append_assoc]⟩
      exact ⟨rest, others, rfl, encodedRest, left⟩

/-- Receive a number of times. -/
def receiveTimes : Nat → Action Inbox Interruption (List (Option μ))
  | 0 => pure []
  | times + 1 => do return (← receive) :: (← receiveTimes times)

theorem on_receiveTimes {messages : List μ} (encoded : encodeAll messages = .ok octets) :
    (receiveTimes (messages.length + 1)).on { unread := octets, ended := true } =
      (.ok (messages.map some ++ [none]), { unread := [], ended := true }) := by
  induction messages generalizing octets with
  | nil =>
    cases encoded
    simp [receiveTimes, on_map, on_receive_at_end, Except.map]
  | cons message rest inductionHypothesis =>
    obtain ⟨first, others, encodedFirst, encodedOthers, rfl⟩ := encodeAll_cons_eq_ok.1 encoded
    have later := inductionHypothesis encodedOthers
    rw [List.length_cons, receiveTimes, on_bind, on_receive encodedFirst]
    simp [on_map, later, Except.map]

/-! ## Pipes -/

/-- Messages that are sent through a pipe, which ends after them, come out of it one after the other,
and then nothing. -/
def CrossPipe (messages : List μ) : Prop :=
  ∃ octets,
    (forM messages send).on ({ peer := {} } : Wire Recorder) =
      (.ok (), { peer := { received := octets } }) ∧
    (receiveTimes (messages.length + 1)).on { unread := octets, ended := true } =
      (.ok (messages.map some ++ [none]), { unread := [], ended := true })

theorem crossPipe {messages : List μ}
    (small : ∀ message ∈ messages, (Cbor.write (Framed.toValue message)).length ≤ frameLimit) :
    CrossPipe messages := by
  obtain ⟨octets, encoded⟩ := exists_encodeAll small
  exact ⟨octets, on_forM_send encoded [], on_receiveTimes encoded⟩

/-- Whatever the messages of parent or child carry, they cross the pipe if their written forms fit
into frames. -/
theorem messages_cross_pipe :
    (∀ messages : List ParentMessage,
      (∀ message ∈ messages, (Cbor.write message.toValue).length ≤ frameLimit) →
        CrossPipe messages) ∧
    ∀ messages : List ChildMessage,
      (∀ message ∈ messages, (Cbor.write message.toValue).length ≤ frameLimit) →
        CrossPipe messages :=
  ⟨fun _ small => crossPipe small, fun _ small => crossPipe small⟩

theorem start_and_report_cross_pipe :
    CrossPipe [
      ParentMessage.startSync { config := "target", sources := [⟨"calendar", "two-way"⟩] },
      .message ⟨[0, 255], "text/plain"⟩, .passwordResponse none] ∧
    CrossPipe [
      ChildMessage.ready, .askPassword "password" "" { port := 65535 },
      .report { status := 4294967295, error := some "é" }] :=
  ⟨messages_cross_pipe.1 _ (by decide), messages_cross_pipe.2 _ (by decide)⟩

end Frame

end DataSync.Local
