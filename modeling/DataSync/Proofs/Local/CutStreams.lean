import DataSync.Proofs.Local.FrameStream

/-!
# Streams that are cut off

A stream of frames that ends too early, as it does when the other side breaks down.  All messages whose
frames are complete are received.  A cut between two frames is the end of the stream, a cut in a message
is an error, and a cut in the length in front of a message is taken for the end of the stream.
-/

namespace DataSync.Local.Frame

open DataSync.Action

variable {μ : Type} [Framed μ] {message : μ} {messages complete : List μ}
  {stream cut octets begun : Bytes}

/-- Whether messages can be sent through a pipe, and what goes through it then. -/
def Sent (messages : List μ) (stream : Bytes) : Prop :=
  (forM messages send).on ({ peer := {} } : Wire Recorder) = (.ok (), { peer := { received := stream } })

/-- What goes through a pipe is the frames of the messages. -/
theorem encodeAll_of_sent {earlier later : Bytes}
    (sent : (forM messages send).on ({ peer := { received := earlier } } : Wire Recorder) =
      (.ok (), { peer := { received := later } })) :
    ∃ frames, encodeAll messages = .ok frames ∧ later = earlier ++ frames := by
  induction messages generalizing earlier with
  | nil =>
    cases sent
    exact ⟨[], rfl, by simp⟩
  | cons message rest inductionHypothesis =>
    rw [List.forM_cons, on_bind] at sent
    cases encoded : encode message with
    | error e => simp [send, encoded] at sent
    | ok frame =>
      have sentFirst : (send message).on ({ peer := { received := earlier } } : Wire Recorder) =
          (.ok (), { peer := { received := earlier ++ frame } }) := by
        simp [send, encoded, Wire.send, Peer.react, Inbox.receive]
      rw [sentFirst] at sent
      obtain ⟨frames, encodedRest, rfl⟩ := inductionHypothesis sent
      exact ⟨frame ++ frames, encodeAll_cons_eq_ok.2 ⟨frame, frames, encoded, encodedRest, rfl⟩,
        by simp⟩

/-- Where a stream of messages is cut off: after the frames of `complete`, and after the octets `begun`
of the frame that comes next. -/
inductive CutAt : List μ → Bytes → List μ → Bytes → Prop where
  | here {message : μ} {later : List μ} {frame begun : Bytes} (encoded : encode message = .ok frame)
      (within : begun <+: frame) (proper : begun.length < frame.length) :
      CutAt (message :: later) begun [] begun
  | later {message : μ} {messages complete : List μ} {frame cut begun : Bytes}
      (encoded : encode message = .ok frame) (rest : CutAt messages cut complete begun) :
      CutAt (message :: messages) (frame ++ cut) (message :: complete) begun

/-- Wherever a stream is cut off, it is somewhere in a frame. -/
theorem exists_cutAt (encoded : encodeAll messages = .ok stream) (within : cut <+: stream)
    (proper : cut.length < stream.length) : ∃ complete begun, CutAt messages cut complete begun := by
  induction messages generalizing stream cut with
  | nil =>
    cases encoded
    simp at proper
  | cons message rest inductionHypothesis =>
    obtain ⟨frame, frames, encodedFirst, encodedRest, rfl⟩ := encodeAll_cons_eq_ok.1 encoded
    by_cases inFirst : cut.length < frame.length
    · have begins := List.prefix_of_prefix_length_le within (List.prefix_append frame frames)
        (Nat.le_of_lt inFirst)
      exact ⟨[], cut, .here encodedFirst begins inFirst⟩
    · obtain ⟨remaining, rfl⟩ := List.prefix_of_prefix_length_le (List.prefix_append frame frames)
        within (Nat.le_of_not_lt inFirst)
      rw [List.prefix_append_right_inj] at within
      simp only [List.length_append, Nat.add_lt_add_iff_left] at proper
      obtain ⟨complete, begun, cutAt⟩ := inductionHypothesis encodedRest within proper
      exact ⟨message :: complete, begun, .later encodedFirst cutAt⟩

/-! ## Reading what is left -/

/-- A message of which only a part is there is an error, except that up to three octets of it are taken
for the end of the stream. -/
theorem CutAt.on_receive (cutAt : CutAt messages cut complete begun) :
    (receive (μ := μ)).on { unread := begun, ended := true } =
      (if begun.length < 4 then .ok none else .error (.failed (.io .cutShort)),
        { unread := [], ended := true }) := by
  induction cutAt with
  | here encoded within proper => exact on_receive_cut encoded within proper true
  | later _ _ inductionHypothesis => exact inductionHypothesis

theorem CutAt.on_receiveTimes [LawfulFramed μ] (cutAt : CutAt messages cut complete begun) :
    (receiveTimes complete.length).on { unread := cut, ended := true } =
      (.ok (complete.map some), { unread := begun, ended := true }) := by
  induction cutAt with
  | here => rfl
  | later encoded _ inductionHypothesis =>
    rw [List.length_cons, receiveTimes, on_bind, Frame.on_receive encoded]
    simp [on_map, inductionHypothesis, Except.map]

variable (μ) in
/-- Whether a reader that comes to the octets of a frame which is cut off sees where the cut is: between
two frames the stream ends, and anything else is an error. -/
def ToldApart (begun : Bytes) : Prop :=
  if begun = [] then ((receive (μ := μ)).on { unread := begun, ended := true }).1 = .ok none
  else ∃ e, ((receive (μ := μ)).on { unread := begun, ended := true }).1 = .error e

theorem CutAt.toldApart_iff (cutAt : CutAt messages cut complete begun) :
    ToldApart μ begun ↔ begun = [] ∨ 4 ≤ begun.length := by
  rw [ToldApart, cutAt.on_receive]
  by_cases between : begun = []
  · simp [between]
  · by_cases short : begun.length < 4
    · simp [between, short]
    · simp [between, short, Nat.le_of_not_lt short]

/-- What is received from a stream that is cut off: the messages whose frames are complete, and then what
its last octets are taken for. -/
def ReadBefore (messages : List μ) (cut : Bytes) : Prop :=
  ∃ complete begun, CutAt messages cut complete begun ∧
    (receiveTimes complete.length).on { unread := cut, ended := true } =
      (.ok (complete.map some), { unread := begun, ended := true }) ∧
    (receive (μ := μ)).on { unread := begun, ended := true } =
      (if begun.length < 4 then .ok none else .error (.failed (.io .cutShort)),
        { unread := [], ended := true }) ∧
    (ToldApart μ begun ↔ begun = [] ∨ 4 ≤ begun.length)

theorem readBefore [LawfulFramed μ] (sent : Sent messages stream) (within : cut <+: stream)
    (proper : cut ≠ stream) : ReadBefore messages cut := by
  obtain ⟨frames, encoded, rfl⟩ := encodeAll_of_sent sent
  have shorter : cut.length < stream.length :=
    Nat.lt_of_le_of_ne within.length_le fun same => proper (within.eq_of_length same)
  obtain ⟨complete, begun, cutAt⟩ := exists_cutAt encoded within shorter
  exact ⟨complete, begun, cutAt, cutAt.on_receiveTimes, cutAt.on_receive, cutAt.toldApart_iff⟩

/-- A stream that is cut off anywhere before its end gives the messages whose frames are complete and
then an error, or nothing if it is cut between two frames or in the length in front of a message.  So
the cut is seen for what it is exactly unless one to three octets of a length are all that is left. -/
theorem cut_streams_read {stream cut : Bytes} (within : cut <+: stream) (proper : cut ≠ stream) :
    (∀ messages : List ParentMessage, Sent messages stream → ReadBefore messages cut) ∧
    ∀ messages : List ChildMessage, Sent messages stream → ReadBefore messages cut :=
  ⟨fun _ sent => readBefore sent within proper, fun _ sent => readBefore sent within proper⟩

/-- The frames of a child that is ready twice over. -/
def readyTwice : Bytes :=
  [0, 0, 0, 6, 101, 82, 101, 97, 100, 121, 0, 0, 0, 6, 101, 82, 101, 97, 100, 121]

theorem ready_and_cut_message_read :
    Sent [ChildMessage.ready, .ready] readyTwice ∧ readyTwice.take 16 <+: readyTwice ∧
      readyTwice.take 16 ≠ readyTwice ∧ ReadBefore [ChildMessage.ready, .ready] (readyTwice.take 16) := by
  have sent : Sent [ChildMessage.ready, .ready] readyTwice := on_forM_send (by decide +kernel) []
  have within : readyTwice.take 16 <+: readyTwice := List.take_prefix 16 readyTwice
  have proper : readyTwice.take 16 ≠ readyTwice := by decide
  exact ⟨sent, within, proper, (cut_streams_read within proper).2 _ sent⟩

/-- Two octets of a length are taken for the end of the stream. -/
theorem cut_length_taken_for_end :
    Sent [ChildMessage.ready, .ready] readyTwice ∧
    CutAt [ChildMessage.ready, .ready] (readyTwice.take 12) [.ready] [0, 0] ∧
    (receiveTimes 2).on { unread := readyTwice.take 12, ended := true } =
      (.ok [some ChildMessage.ready, none], { unread := [], ended := true }) ∧
    ¬ ∀ (messages complete : List ChildMessage) (stream cut begun : Bytes), Sent messages stream →
      cut <+: stream → CutAt messages cut complete begun → ToldApart ChildMessage begun := by
  have sent : Sent [ChildMessage.ready, .ready] readyTwice := on_forM_send (by decide +kernel) []
  have encoded : encode ChildMessage.ready = .ok [0, 0, 0, 6, 101, 82, 101, 97, 100, 121] := rfl
  have cutAt : CutAt [ChildMessage.ready, .ready] (readyTwice.take 12) [.ready] [0, 0] :=
    .later encoded (.here encoded ⟨[0, 6, 101, 82, 101, 97, 100, 121], rfl⟩ (by decide))
  refine ⟨sent, cutAt, by decide +kernel, fun toldApart => ?_⟩
  have told := toldApart _ _ _ _ _ sent (List.take_prefix 12 readyTwice) cutAt
  rw [cutAt.toldApart_iff] at told
  simp at told

end DataSync.Local.Frame
