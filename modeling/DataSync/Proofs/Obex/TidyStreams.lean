import DataSync.Proofs.Obex.Streams
import DataSync.Proofs.Transport.LawfulAgents
import DataSync.Rehearsal.ScriptedReach

/-!
# Tidy streams

Every stream that an agent opens starts with a request for a connection to its service.  Other requests
follow only once the peer agreed, under the identifier that it gave the connection, if it gave one.
After the agent gave up a transfer or turned to another peer nothing is written to the streams that are
there, so that no later message continues what was left half done.
-/

namespace DataSync.Obex

open DataSync.Action

variable {π : Type} {given : Option UInt32} {octets : Bytes} {packet : Packet}

/-! ## Streams -/

namespace Stream

/-- The peer agreed to a connection with an identifier or without one. -/
def Agreed (given : Option UInt32) (stream : Stream) : Prop :=
  ∃ reply, stream.response? = some reply ∧ reply.isSuccess = true ∧ reply.connectionId? = given

/-- A stream on which everything was written in its turn. -/
structure Tidy (stream : Stream) : Prop where
  /-- The first packet asks for a connection to the service. -/
  first : ∀ write ∈ stream.writes.head?, ∃ request, Packet.decode write.1 true = .ok request ∧
    request.code = Opcode.connect ∧ request.headers = [.target (Bytes.ofText "SYNCML-SYNC")]
  /-- All others belong to the connection that the peer agreed to. -/
  later : ∀ write ∈ stream.writes.tail, ∃ given request, stream.Agreed given ∧
    Packet.decode write.1 false = .ok request ∧ request.Belongs given

variable {stream : Stream} {result : Except Interruption Reaction}

theorem Agreed.write (agreed : stream.Agreed given) (octets : Bytes)
    (result : Except Interruption Reaction) : (stream.write octets result).Agreed given := by
  obtain ⟨reply, response, accepted⟩ := agreed
  exact ⟨reply, response?_write response octets result, accepted⟩

theorem Tidy.write (tidy : stream.Tidy) (agreed : stream.Agreed given) (belongs : packet.Belongs given)
    (encoded : packet.encode = .ok octets) : (stream.write octets result).Tidy := by
  have decoded : Packet.decode octets false = .ok packet := by
    simpa [belongs.connect_eq] using Packet.decode_of_encode belongs.canonical encoded
  have ⟨reply, response, _⟩ := agreed
  obtain ⟨bytes, reaction, rest, writes⟩ := exists_cons_of_response response
  constructor
  · simpa [Stream.write, writes] using tidy.first
  · intro write member
    simp only [Stream.write, writes, List.cons_append, List.tail_cons, List.mem_append,
      List.mem_singleton] at member
    obtain before | rfl := member
    · have known : write ∈ stream.writes.tail := by simpa [writes] using before
      obtain ⟨given, request, agreed, requestBelongs⟩ := tidy.later write known
      exact ⟨given, request, agreed.write octets result, requestBelongs⟩
    · exact ⟨given, packet, agreed.write octets result, decoded, belongs⟩

end Stream

/-- Agents keep their streams tidy. -/
def Discipline.tidy : Discipline where
  takes _ := True
  good := Stream.Tidy
  stage terms _ stream := stream.Agreed terms.connectionId
  good_opened greeting octets result encoded := by
    have decoded : Packet.decode octets true = .ok connectRequest :=
      Packet.decode_of_encode (by simp [Packet.Canonical, connectRequest, Header.Canonical]) encoded
    exact ⟨by simpa using ⟨connectRequest, decoded, rfl, rfl⟩, by simp⟩
  stage_accepted response accepted := ⟨_, response, accepted, rfl⟩
  stage_begun result agreed _ _ _ := agreed.write _ result
  stage_write octets result agreed := agreed.write octets result
  stage_none := id
  good_write result tidy agreed asked encoded := tidy.write agreed asked.belongs encoded

/-! ## Links -/

namespace Link

variable {old : List Stream} {link : Link (Taped π)}

/-- All streams but the `old` ones are tidy, and the latest of them is that of the connection, if there
is one.  The `old` ones are as they were. -/
def Tidy (old : List Stream) (link : Link (Taped π)) : Prop :=
  link.reach.strays = [] ∧ ∃ newer, link.reach.streams = newer ++ old ∧
    (∀ stream ∈ newer, stream.Tidy) ∧
    ∀ connection, link.connection = some connection →
      ∃ current ∈ newer.head?, current.Agreed connection.terms.connectionId

/-- A tidy link with a connection or without one. -/
def TidyWith (old : List Stream) (connection : Option Connection) (link : Link (Taped π)) : Prop :=
  link.Tidy old ∧ link.connection = connection

theorem Tidy.reset (tidy : link.Tidy old) : link.reset.Tidy old :=
  have governs : Discipline.tidy.Governs old link := tidy
  governs.reset.1

variable [Reach π]

theorem keeps_exchange (address : Address) (message : Message) (noReply : Bool) :
    Keeps (Tidy (π := π) old) (exchange address message noReply) := by
  change Keeps (Discipline.tidy.Governs old) _
  exact Discipline.keeps_exchange address trivial noReply

theorem Tidy.leave (tidy : link.Tidy old) : link.leave.TidyWith old none :=
  have governs : Discipline.tidy.Governs old link := tidy
  governs.leave

end Link

/-! ## Agents -/

namespace ObexAgent

variable [Reach π]

/-- An agent whose streams are tidy, given the `old` ones that it leaves alone. -/
structure Tidy (old : List Stream) (agent : ObexAgent (Taped π)) : Prop where
  link : agent.link.Tidy old
  addressed : agent.core.url.isSome = true → agent.address.isSome = true
  underWay : agent.core.status = .active →
    agent.pending.isSome = true ∧ agent.core.url.isSome = true
  dropped : agent.core.status ∈ [.failed, .timeOut, .canceled, .closed] → agent.link.connection = none

/-- Whether an agent is done with its stream after a call: it gives up, or it turns to another peer. -/
def LetsGo (call : AgentCall) (agent : ObexAgent π) : Prop :=
  call.GivesUp agent ∨
    ∃ url address, call = .setUrl url ∧ Address.parse url = .ok address ∧ agent.address ≠ some address

variable {old : List Stream} {agent : ObexAgent (Taped π)}

omit [Reach π] in
theorem Tidy.of_dropped (link : agent.link.TidyWith old none)
    (addressed : agent.core.url.isSome = true → agent.address.isSome = true)
    (idle : agent.core.status ≠ .active) : agent.Tidy old where
  link := link.1
  addressed := addressed
  underWay active := absurd active idle
  dropped _ := link.2

theorem Tidy.wait (tidy : agent.Tidy old) (noReply : Bool) :
    Tidy old (Agent.wait noReply agent).2 := by
  by_cases active : agent.core.status = .active
  · obtain ⟨pending, url⟩ := tidy.underWay active
    obtain ⟨message, pending⟩ := Option.isSome_iff_exists.1 pending
    obtain ⟨address, addressed⟩ := Option.isSome_iff_exists.1 (tidy.addressed url)
    have driven := agent.core.drive_keeps (Link.keeps_exchange address message noReply) tidy.link
    rw [wait_active active pending addressed]
    generalize agent.core.drive (Link.exchange address message noReply) agent.link = ended
      at driven ⊢
    obtain ⟨outcome, time, link⟩ := ended
    -- Only a completed exchange leaves its connection, and with it one of the other statuses.
    cases outcome with
    | completed reply =>
      cases reply <;> exact ⟨driven, fun _ => tidy.addressed url, nofun, nofun⟩
    | _ => exact .of_dropped ⟨driven.reset, rfl⟩ (fun _ => tidy.addressed url) nofun
  · rwa [show Agent.wait noReply agent = (agent.core.status, agent) from if_pos active]

theorem Tidy.perform (tidy : agent.Tidy old) (call : AgentCall) : Tidy old (call.perform agent) := by
  cases call with
  | setUrl url =>
    simp only [AgentCall.perform, stateAfter, Agent.setUrl, on_of]
    cases Address.parse url with
    | error e => exact tidy
    | ok address =>
      -- Only another address drops the connection.
      by_cases same : agent.address = some address
      · exact ⟨by simpa [same] using tidy.link, fun _ => rfl,
          fun active => ⟨(tidy.underWay active).1, rfl⟩, by simpa [same] using tidy.dropped⟩
      · exact ⟨by simpa [same] using tidy.link.reset, fun _ => rfl,
          fun active => ⟨(tidy.underWay active).1, rfl⟩, by simp [same, Link.reset]⟩
  | send data =>
    simp only [AgentCall.perform, stateAfter, Agent.send, on_of]
    cases begun : agent.core.beginSend true with
    | error e => exact tidy
    | ok core =>
      obtain ⟨-, url, rfl⟩ := AgentCore.beginSend_eq_ok.1 begun
      refine ⟨tidy.link, tidy.addressed, fun _ => ⟨rfl, by simpa [AgentCore.sending] using url⟩, ?_⟩
      simp [AgentCore.sending]
  | cancel =>
    by_cases active : agent.core.status = .active
    · rw [show AgentCall.cancel.perform agent = _ from if_pos active]
      exact .of_dropped ⟨tidy.link.reset, rfl⟩ tidy.addressed (by simp [AgentCore.canceled])
    · rwa [show AgentCall.cancel.perform agent = agent from if_neg active]
  | wait noReply => exact tidy.wait noReply
  | shutdown =>
    obtain ⟨link, dropped⟩ := tidy.link.leave
    exact .of_dropped ⟨link, dropped⟩ tidy.addressed
      (by simp [AgentCall.perform, Agent.shutdown, AgentCore.closed])
  | _ => exact ⟨tidy.link, tidy.addressed, tidy.underWay, tidy.dropped⟩

theorem Tidy.after (tidy : agent.Tidy old) (calls : List AgentCall) :
    Tidy old (Agent.after calls agent) :=
  Agent.keeps_after (fun _ call tidy => tidy.perform call) tidy calls

theorem Tidy.letsGo (tidy : agent.Tidy old) {call : AgentCall} (letsGo : LetsGo call agent) :
    Tidy (call.perform agent).link.reach.streams (call.perform agent) := by
  have next := tidy.perform call
  -- Without a connection all streams that are there may count as old ones.
  suffices unconnected : (call.perform agent).link.connection = none from
    { next with
      link := ⟨next.link.1, [], rfl, by simp, by simp [unconnected]⟩ }
  obtain givesUp | ⟨url, address, rfl, parsed, other⟩ := letsGo
  · exact next.dropped (LawfulAgent.status_of_givesUp givesUp)
  · simp [AgentCall.perform, stateAfter, Agent.setUrl, parsed, other, Link.reset]

/-- An agent that was not used yet, over peers with a tape. -/
def taped (reach : π) : ObexAgent (Taped π) :=
  { link := { reach := { reach } } }

/-- Whatever the peers within reach do, an agent that is called in any way writes to its streams in their
turn only, and leaves those alone that it let go of.  The tape shows this of the agent without one. -/
theorem streams_tidy (reach : π) (calls : List AgentCall) :
    (Agent.after calls (taped reach)).plain Taped.reach = Agent.after calls { link := { reach } } ∧
    (Agent.after calls (taped reach)).link.reach.strays = [] ∧
    (∀ stream ∈ (Agent.after calls (taped reach)).link.reach.streams, stream.Tidy) ∧
    ∀ call later, LetsGo call (Agent.after calls (taped reach)) →
      (Agent.after (calls ++ [call]) (taped reach)).link.reach.streams <:+
        (Agent.after (calls ++ call :: later) (taped reach)).link.reach.streams := by
  have unused : Tidy [] (taped reach) :=
    ⟨⟨rfl, [], rfl, nofun, nofun⟩, nofun, nofun, nofun⟩
  have tidy := unused.after calls
  obtain ⟨noStrays, newer, streams, allTidy, -⟩ := tidy.link
  refine ⟨(after_plain Taped.recorded calls (taped reach)).symm, noStrays, ?_,
    fun call later letsGo => ?_⟩
  · simpa [streams] using allTidy
  · simp only [Agent.after_append, Agent.after_cons, Agent.after_nil]
    obtain ⟨-, newer, streams, -⟩ := ((tidy.letsGo letsGo).after later).link
    exact ⟨newer, streams.symm⟩

/-- Peers of which the first agrees to a connection and to a message, but has no answer. -/
def reticent : ScriptedReach :=
  { linking := .scripted [
      .ok [{ bytes := [0xA0, 0, 12, 0x10, 0, 1, 0, 0xCB, 0, 0, 0, 7] }, { bytes := [0xA0, 0, 3] },
        { bytes := [0xC4, 0, 3] }],
      .ok [{ bytes := [0xD3, 0, 7, 0x10, 0, 1, 0] }]] }

/-- After an exchange that failed the stream is left as it is: the next message goes to another one. -/
theorem streams_tidy_of_reticent_peer :
    LetsGo (.wait false) (Agent.after [.setUrl "obex-tcp://phone", .send [1]] (taped reticent)) ∧
    (Agent.after [.setUrl "obex-tcp://phone", .send [1], .wait false]
      (taped reticent)).link.reach.streams.map (·.writes.length) = [3] ∧
    (Agent.after [.setUrl "obex-tcp://phone", .send [1], .wait false, .send [2], .wait false, .shutdown]
      (taped reticent)).link.reach.streams.map (·.writes.length) = [1, 3] ∧
    (∀ stream ∈ (Agent.after [.setUrl "obex-tcp://phone", .send [1], .wait false, .send [2],
      .wait false, .shutdown] (taped reticent)).link.reach.streams, stream.Tidy) ∧
    (Agent.after [.setUrl "obex-tcp://phone", .send [1], .wait false]
      (taped reticent)).link.reach.streams <:+
        (Agent.after [.setUrl "obex-tcp://phone", .send [1], .wait false, .send [2], .wait false,
          .shutdown] (taped reticent)).link.reach.streams :=
  have letsGo : LetsGo (.wait false)
      (Agent.after [.setUrl "obex-tcp://phone", .send [1]] (taped reticent)) :=
    .inl (show (Agent.wait false _).1 ∈ _ by decide +kernel)
  ⟨letsGo, by decide +kernel, by decide +kernel, (streams_tidy reticent _).2.2.1,
    (streams_tidy reticent _).2.2.2 _ [.send [2], .wait false, .shutdown] letsGo⟩

end ObexAgent

end DataSync.Obex
