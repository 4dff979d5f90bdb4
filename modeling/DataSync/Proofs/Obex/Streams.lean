import DataSync.Proofs.Keeps
import DataSync.Proofs.Obex.Segments

/-!
# Streams under a discipline

What an agent writes to a stream after the request for a connection depends on the terms that the
response to it sets, and on how far the exchange is.  A discipline is what holds of a stream from its
first packet on and is kept by every request in its turn.  All streams of an agent are under it then,
whatever the peers do.
-/

namespace DataSync.Obex

open DataSync.Action

variable {π : Type}

/-- The peer's response to the first packet that was written. -/
def Stream.response? (stream : Stream) : Option Packet :=
  match stream.writes with
  | (_, .ok reaction) :: _ =>
    let greeted := Inbox.receive stream.greeting.sent stream.greeting.ends {}
    ((Packet.receive true).on (greeted.receive reaction.sent reaction.ends)).1.toOption
  | _ => none

theorem Stream.exists_cons_of_response {stream : Stream} {reply : Packet}
    (response : stream.response? = some reply) :
    ∃ bytes reaction rest, stream.writes = (bytes, .ok reaction) :: rest := by
  unfold response? at response
  split at response
  · exact ⟨_, _, _, ‹_›⟩
  · cases response

theorem Stream.response?_write {stream : Stream} {reply : Packet}
    (response : stream.response? = some reply) (octets : Bytes) (result : Except Interruption Reaction) :
    (stream.write octets result).response? = some reply := by
  obtain ⟨bytes, reaction, rest, writes⟩ := exists_cons_of_response response
  simpa [response?, Stream.write, writes] using response

/-- The requests over a connection, given the type of the message that is being put or was, if there is
one: messages of the types that are taken are put, and answers are asked for by the type of what was put
before. -/
inductive Asked (takes : String → Prop) (terms : Terms) : Option String → Packet → Prop
  | put {progress : Option String} {message : Message} {packet : Packet}
      (taken : takes message.contentType) (part : packet ∈ segments terms message) :
      Asked takes terms progress packet
  | get (mime : String) : Asked takes terms (some mime) (firstGet terms mime)
  | getMore (progress : Option String) :
      Asked takes terms progress (terms.address { code := Opcode.getFinal })
  | disconnect (progress : Option String) :
      Asked takes terms progress (terms.address { code := Opcode.disconnect })

theorem Asked.belongs {takes : String → Prop} {terms : Terms} {progress : Option String}
    {packet : Packet} (asked : Asked takes terms progress packet) :
    packet.Belongs terms.connectionId := by
  cases asked with
  | put _ part => exact belongs_segmentsFrom (Terms.belongs_firstPut _) packet part
  | get mime => exact Terms.belongs_firstGet mime
  | getMore | disconnect => exact Terms.belongs_address (by simp)

/-- A property of streams that is kept by what is written to them in its turn. -/
structure Discipline where
  /-- The types of the messages that are taken. -/
  takes : String → Prop
  /-- What holds of all streams. -/
  good : Stream → Prop
  /-- What holds of the stream of a connection, given its terms and the type of the message that is
  being put or was. -/
  stage : Terms → Option String → Stream → Prop
  good_opened : ∀ (greeting : Reaction) {octets : Bytes} (result : Except Interruption Reaction),
    connectRequest.encode = .ok octets → good { greeting, writes := [(octets, result)] }
  stage_accepted : ∀ {stream : Stream} {reply : Packet},
    stream.response? = some reply → reply.isSuccess = true → stage (.ofResponse reply) none stream
  stage_begun : ∀ {terms : Terms} {message : Message} {stream : Stream} {first : Packet}
    {octets : Bytes} (result : Except Interruption Reaction), stage terms none stream →
    takes message.contentType → (segments terms message).head? = some first → first.encode = .ok octets →
    stage terms (some message.contentType) (stream.write octets result)
  stage_write : ∀ {terms : Terms} {progress : Option String} {stream : Stream} (octets : Bytes)
    (result : Except Interruption Reaction), stage terms progress stream →
    stage terms progress (stream.write octets result)
  stage_none : ∀ {terms : Terms} {progress : Option String} {stream : Stream},
    stage terms progress stream → stage terms none stream
  good_write : ∀ {terms : Terms} {progress : Option String} {stream : Stream} {packet : Packet}
    {octets : Bytes} (result : Except Interruption Reaction), good stream → stage terms progress stream →
    Asked takes terms progress packet → packet.encode = .ok octets →
    good (stream.write octets result)

namespace Discipline

variable (discipline : Discipline)

/-! ## Transfers -/

/-- The latest stream is that of a connection, and the older ones are as they were. -/
def Speaks (terms : Terms) (progress : Option String) (older : List Stream) (taped : Taped π) : Prop :=
  taped.strays = [] ∧ ∃ current, taped.streams = current :: older ∧
    discipline.good current ∧ discipline.stage terms progress current

section Transfers

variable {discipline} {older : List Stream} {terms : Terms} {packet : Packet}
  {progress next : Option String}

theorem Speaks.forget {taped : Taped π} (speaks : discipline.Speaks terms progress older taped) :
    discipline.Speaks terms none older taped := by
  obtain ⟨noStrays, current, streams, good, stage⟩ := speaks
  exact ⟨noStrays, current, streams, good, discipline.stage_none stage⟩

variable [Reach π]

theorem leads_send (asked : Asked discipline.takes terms progress packet)
    (turns : ∀ {stream : Stream} {octets : Bytes} (result : Except Interruption Reaction),
      discipline.stage terms progress stream → packet.encode = .ok octets →
      discipline.stage terms next (stream.write octets result)) :
    Leads (fun wire : Wire (Taped π) => discipline.Speaks terms progress older wire.peer) packet.send
      (fun _ wire => discipline.Speaks terms next older wire.peer)
      (fun wire => discipline.Speaks terms none older wire.peer) := by
  intro wire speaks
  rw [Packet.send]
  cases encoded : packet.encode with
  | error fault => exact speaks.forget
  | ok octets =>
    obtain ⟨noStrays, current, streams, good, stage⟩ := speaks
    obtain ⟨result, reach, written⟩ := Wire.peer_send octets wire
    -- The octets are on the tape whether they reached the peer or not.
    have sent : discipline.Speaks terms next older ((Wire.send octets).stateAfter wire).peer := by
      simp only [written, Taped.write, streams]
      exact ⟨noStrays, _, rfl, discipline.good_write result good stage asked encoded,
        turns result stage encoded⟩
    unfold stateAfter at sent
    rcases on : (Wire.send octets).on wire with ⟨e | done, after⟩
    · rw [on] at sent
      exact sent.forget
    · rwa [on] at sent

theorem leads_request (asked : Asked discipline.takes terms progress packet)
    (turns : ∀ {stream : Stream} {octets : Bytes} (result : Except Interruption Reaction),
      discipline.stage terms progress stream → packet.encode = .ok octets →
      discipline.stage terms next (stream.write octets result)) :
    Leads (fun wire : Wire (Taped π) => discipline.Speaks terms progress older wire.peer)
      (request packet) (fun _ wire => discipline.Speaks terms next older wire.peer)
      (fun wire => discipline.Speaks terms none older wire.peer) := by
  have read : Keeps (fun wire : Wire (Taped π) => discipline.Speaks terms next older wire.peer)
      (Wire.reading (Packet.receive false)) := .within fun _ speaks => speaks
  exact .bind (leads_send asked turns) fun _ =>
    read.leads.weaken (fun _ => id) (fun _ _ => id) fun _ => Speaks.forget

theorem leads_nextRequest (asked : Asked discipline.takes terms progress packet) :
    Leads (fun wire : Wire (Taped π) => discipline.Speaks terms progress older wire.peer)
      (request packet) (fun _ wire => discipline.Speaks terms progress older wire.peer)
      (fun wire => discipline.Speaks terms none older wire.peer) :=
  leads_request asked fun result stage _ => discipline.stage_write _ result stage

theorem leads_submit {packets : List Packet}
    (asked : ∀ packet ∈ packets, Asked discipline.takes terms progress packet) :
    Leads (fun wire : Wire (Taped π) => discipline.Speaks terms progress older wire.peer)
      (submit packets) (fun _ wire => discipline.Speaks terms progress older wire.peer)
      (fun wire => discipline.Speaks terms none older wire.peer) := by
  induction packets with
  | nil => exact .pure fun _ speaks => speaks
  | cons packet more inductionHypothesis =>
    obtain ⟨first, others⟩ := List.forall_mem_cons.1 asked
    refine .bind (leads_nextRequest first) fun reply => ?_
    split
    · exact inductionHypothesis others
    · exact .throw fun _ => Speaks.forget

theorem leads_put {message : Message} (taken : discipline.takes message.contentType) :
    Leads (fun wire : Wire (Taped π) => discipline.Speaks terms none older wire.peer)
      (put terms message)
      (fun _ wire => discipline.Speaks terms (some message.contentType) older wire.peer)
      (fun wire => discipline.Speaks terms none older wire.peer) := by
  obtain ⟨first, more, parts⟩ := exists_segments terms message
  have asked (progress : Option String) :
      ∀ packet ∈ first :: more, Asked discipline.takes terms progress packet :=
    fun packet member => .put taken (parts ▸ member)
  have isFirst : (segments terms message).head? = some first := by rw [parts, List.head?_cons]
  rw [put_eq_submit, parts, submit]
  -- From the first packet on it is known that the message is being put.
  refine .bind (leads_request (asked none first List.mem_cons_self) fun result stage encoded =>
    discipline.stage_begun result stage taken isFirst encoded) fun reply => ?_
  split
  · exact leads_submit fun packet member => asked _ packet (.tail _ member)
  · exact .throw fun _ => Speaks.forget

theorem leads_fetchRest (patience : Nat) (got : Partial)
    (asked : Asked discipline.takes terms progress packet) :
    Leads (fun wire : Wire (Taped π) => discipline.Speaks terms progress older wire.peer)
      (fetchRest terms patience got packet)
      (fun _ wire => discipline.Speaks terms progress older wire.peer)
      (fun wire => discipline.Speaks terms none older wire.peer) := by
  induction patience generalizing got packet with
  | zero => exact .throw fun _ => Speaks.forget
  | succ patience inductionHypothesis =>
    refine .bind (leads_nextRequest asked) fun reply => ?_
    dsimp only
    split
    · exact inductionHypothesis _ (.getMore progress)
    · split
      · exact .pure fun _ speaks => speaks
      · exact .throw fun _ => Speaks.forget

theorem leads_fetch (mime : String) :
    Leads (fun wire : Wire (Taped π) => discipline.Speaks terms (some mime) older wire.peer)
      (fetch terms mime) (fun _ wire => discipline.Speaks terms none older wire.peer)
      (fun wire => discipline.Speaks terms none older wire.peer) := by
  refine .get_bind fun wire => ?_
  refine .bind ((leads_fetchRest _ _ (.get mime)).weaken (fun _ => And.left) (fun _ _ => id)
    fun _ => id) fun got => ?_
  exact .pure fun _ => Speaks.forget

theorem keeps_disconnect :
    Keeps (fun wire : Wire (Taped π) => discipline.Speaks terms none older wire.peer)
      (disconnect terms) := by
  refine Leads.keeps (.bind (leads_nextRequest (.disconnect none)) fun reply => ?_)
  split
  · exact .throw fun _ speaks => speaks
  · exact .pure fun _ speaks => speaks

end Transfers

/-! ## Links -/

variable {old : List Stream} {link : Link (Taped π)}

/-- All streams but the `old` ones are under the discipline, and the latest of them is that of the
connection, if there is one.  The `old` ones are as they were. -/
def Governs (old : List Stream) (link : Link (Taped π)) : Prop :=
  link.reach.strays = [] ∧ ∃ newer, link.reach.streams = newer ++ old ∧
    (∀ stream ∈ newer, discipline.good stream) ∧
    ∀ connection, link.connection = some connection →
      ∃ current ∈ newer.head?, discipline.stage connection.terms none current

/-- A governed link with a connection or without one. -/
def GovernsWith (old : List Stream) (connection : Option Connection) (link : Link (Taped π)) : Prop :=
  discipline.Governs old link ∧ link.connection = connection

/-- A link without a connection, whose latest stream may not be under the discipline yet. -/
def Opened (old : List Stream) (current : Stream) (link : Link (Taped π)) : Prop :=
  link.reach.strays = [] ∧ link.connection = none ∧
    ∃ older, link.reach.streams = current :: (older ++ old) ∧
      ∀ stream ∈ older, discipline.good stream

variable {discipline}

theorem Governs.reset (governs : discipline.Governs old link) :
    discipline.GovernsWith old none link.reset := by
  obtain ⟨noStrays, newer, streams, allGood, -⟩ := governs
  exact ⟨⟨noStrays, newer, streams, allGood, nofun⟩, rfl⟩

theorem Opened.governs {current : Stream} (opened : discipline.Opened old current link)
    (good : discipline.good current) : discipline.GovernsWith old none link := by
  obtain ⟨noStrays, unconnected, older, streams, allGood⟩ := opened
  refine ⟨⟨noStrays, current :: older, streams, ?_, by simp [unconnected]⟩, unconnected⟩
  simpa using ⟨good, allGood⟩

theorem leads_enter {P R : Link (Taped π) → Prop} (state : ConnectState)
    (keeps : ∀ link, P link → P { link with state }) : Leads P (Link.enter state) (fun _ => P) R :=
  .alter keeps

theorem stateAfter_onWire {α : Type} (inbox : Inbox) (action : Action (Wire (Taped π)) Interruption α)
    (link : Link (Taped π)) : (Link.onWire inbox action).stateAfter link =
      { link with reach := (action.stateAfter { peer := link.reach, inbox }).peer } := by
  simp only [Link.onWire, stateAfter, on_of]
  rcases action.on { peer := link.reach, inbox } with ⟨e | a, wire⟩ <;> rfl

theorem keeps_onWire {α : Type} {connection : Connection} {inbox : Inbox}
    {action : Action (Wire (Taped π)) Interruption α}
    (keeps : ∀ older,
      Keeps (fun wire => discipline.Speaks connection.terms none older wire.peer) action) :
    Keeps (discipline.GovernsWith old (some connection)) (Link.onWire inbox action) := by
  rintro link ⟨⟨noStrays, newer, streams, allGood, agreed⟩, connected⟩
  -- The stream of the connection is the latest one, the others are out of reach of the action.
  obtain ⟨current, first, stage⟩ := agreed connection connected
  obtain ⟨older, rfl⟩ := List.head?_eq_some_iff.1 first
  obtain ⟨noStrays, current, streams, good, stage⟩ := keeps (older ++ old)
    { peer := link.reach, inbox } ⟨noStrays, current, streams, allGood _ (by simp), stage⟩
  rw [stateAfter_onWire]
  refine ⟨⟨noStrays, current :: older, streams, ?_, ?_⟩, connected⟩
  · simpa using ⟨good, fun stream member => allGood stream (by simp [member])⟩
  · rintro other same
    cases same.symm.trans connected
    exact ⟨current, rfl, stage⟩

variable [Reach π]

theorem keeps_channelOf (address : Address) :
    Keeps (discipline.GovernsWith (π := π) old none) (Link.channelOf address) := by
  match address with
  | .bluetooth device none =>
    refine .bind (fun _ unconnected => unconnected) fun _ => ?_
    refine .bind (fun _ unconnected => unconnected) fun _ => ?_
    refine .bind (.within fun _ unconnected => unconnected) fun channel => ?_
    exact .bind (fun _ unconnected => unconnected) fun _ => keeps_pure _
  | .bluetooth _ (some channel) => exact keeps_pure _
  | .tcp _ _ => exact keeps_pure _

theorem leads_link (address : Address) (channel : Option Nat) :
    Leads (discipline.GovernsWith (π := π) old none) (Link.reaching (Reach.link address channel))
      (fun greeting => discipline.Opened old { greeting }) (discipline.GovernsWith old none) := by
  rintro link ⟨⟨noStrays, newer, streams, allGood, agreed⟩, unconnected⟩
  simp only [Link.reaching, on_within, Reach.link, on_of]
  rcases (Reach.link address channel).on link.reach.reach with ⟨e | greeting, reach⟩
  · exact ⟨⟨noStrays, newer, streams, allGood, agreed⟩, unconnected⟩
  · exact ⟨noStrays, unconnected, newer, by simp [streams], allGood⟩

/-- The request for a connection is the first packet on the stream, and what is read then is the
response to it. -/
theorem leads_connectRequest (greeting : Reaction) :
    Leads (discipline.Opened (π := π) old { greeting })
      (Link.onWire (Inbox.receive greeting.sent greeting.ends {})
        (connectRequest.send >>= fun _ => Wire.reading (Packet.receive true)))
      (fun answer link => ∃ current : Stream, discipline.good current ∧
        current.response? = some answer.1 ∧ discipline.Opened old current link)
      (discipline.GovernsWith old none) := by
  rintro link ⟨noStrays, unconnected, older, streams, allGood⟩
  obtain ⟨octets, encoded⟩ : ∃ octets, connectRequest.encode = .ok octets :=
    ⟨_, Packet.encode_eq_ok_iff.2 ⟨by decide, rfl⟩⟩
  have good (result : Except Interruption Reaction) :
      discipline.good { greeting, writes := [(octets, result)] } :=
    discipline.good_opened greeting result encoded
  have opened (result : Except Interruption Reaction) (reach : π) :
      discipline.Opened old { greeting, writes := [(octets, result)] } { link with
        reach := { link.reach with reach }.write octets result } := by
    simp only [Taped.write, streams]
    exact ⟨noStrays, unconnected, older, rfl, allGood⟩
  simp only [Link.onWire, on_of, on_bind, Packet.send, encoded, Wire.send, Peer.react]
  rcases (Peer.react octets).on link.reach.reach with ⟨e | reaction, reach⟩
  · -- The stream broke, with nothing but the request on it.
    exact (opened (.error e) reach).governs (good _)
  · dsimp only [Wire.reading, on_within]
    rcases read : (Packet.receive true).on
      ((Inbox.receive greeting.sent greeting.ends {}).receive reaction.sent reaction.ends)
      with ⟨e | reply, inbox⟩
    · exact (opened (.ok reaction) reach).governs (good _)
    · refine ⟨_, good (.ok reaction), ?_, opened (.ok reaction) reach⟩
      simp [Stream.response?, read, Except.toOption]

theorem leads_connect (address : Address) :
    Leads (discipline.GovernsWith (π := π) old none) (Link.connect address)
      (fun connection => discipline.GovernsWith old (some connection))
      (discipline.GovernsWith old none) := by
  refine .bind (leads_enter _ fun _ unconnected => unconnected) fun _ => ?_
  refine .bind (keeps_channelOf address).leads fun channel => ?_
  refine .bind (leads_enter _ fun _ unconnected => unconnected) fun _ => ?_
  refine .bind (leads_enter _ fun _ unconnected => unconnected) fun _ => ?_
  refine .bind (leads_link address channel) fun greeting => ?_
  refine .bind (leads_enter _ fun _ opened => opened) fun _ => ?_
  refine .bind (leads_connectRequest greeting) fun (reply, inbox) => ?_
  refine .bind (leads_enter _ fun _ answered => answered) fun _ => ?_
  dsimp only
  split
  · -- The peer declined: its stream is left with the request on it.
    rintro link ⟨current, good, -, opened⟩
    exact opened.governs good
  · rename_i agreed
    refine .bind (.modify ?_) fun _ =>
      .bind (leads_enter _ fun _ connected => connected) fun _ => .pure fun _ connected => connected
    rintro link ⟨current, good, response, noStrays, -, older, streams, allGood⟩
    refine ⟨⟨noStrays, current :: older, streams, by simpa using ⟨good, allGood⟩, ?_⟩, rfl⟩
    rintro connection ⟨⟩
    exact ⟨current, rfl, discipline.stage_accepted response (by simpa using agreed)⟩

theorem leads_carry {message : Message} (taken : discipline.takes message.contentType)
    (noReply : Bool) (connection : Connection) :
    Leads (discipline.GovernsWith (π := π) old (some connection))
      (Link.carry message noReply connection) (fun _ => discipline.Governs old)
      (discipline.Governs old) := by
  have transfer (older : List Stream) :
      Keeps (fun wire : Wire (Taped π) => discipline.Speaks connection.terms none older wire.peer)
        (put connection.terms message >>= fun _ =>
          if noReply then pure none
          else fetch connection.terms message.contentType >>= fun answer => pure (some answer)) := by
    refine Leads.keeps (.bind (leads_put taken) fun _ => ?_)
    split
    · exact .pure fun _ => Speaks.forget
    · exact .bind (leads_fetch _) fun _ => .pure fun _ speaks => speaks
  refine .bind ((keeps_onWire transfer).leads.weaken (fun _ => id) (fun _ _ => id) fun _ => And.left)
    fun (answer, inbox) => ?_
  refine .bind (.modify ?_) fun _ => .pure fun _ holds => holds
  -- The connection stays the same but for its inbox.
  rintro link ⟨⟨noStrays, newer, streams, allGood, agreed⟩, connected⟩
  refine ⟨noStrays, newer, streams, allGood, ?_⟩
  rintro other ⟨⟩
  exact agreed connection connected

theorem keeps_exchange (address : Address) {message : Message}
    (taken : discipline.takes message.contentType) (noReply : Bool) :
    Keeps (discipline.Governs (π := π) old) (Link.exchange address message noReply) := by
  refine Leads.keeps ?_
  rw [Link.exchange_eq]
  refine .get_bind fun link => ?_
  cases connected : link.connection with
  | some connection =>
    refine (leads_carry taken noReply connection).weaken ?_ (fun _ _ => id) fun _ => id
    rintro _ ⟨governs, rfl⟩
    exact ⟨governs, connected⟩
  | none =>
    refine .bind ((leads_connect address).weaken ?_ (fun _ _ => id) fun _ => And.left)
      (leads_carry taken noReply)
    rintro _ ⟨governs, rfl⟩
    exact ⟨governs, connected⟩

theorem Governs.leave (governs : discipline.Governs old link) :
    discipline.GovernsWith old none link.leave := by
  unfold Link.leave
  cases connected : link.connection with
  | none => exact governs.reset
  | some connection =>
    exact (keeps_onWire (fun _ => keeps_disconnect) link ⟨governs, connected⟩).1.reset

end Discipline

end DataSync.Obex
