import DataSync.Obex.Agent
import DataSync.Proofs.Transport.Calls
import DataSync.Proofs.Transport.Mimicry

/-!
# Tapes of streams

What an agent writes to its peers, stream by stream.  Peers with a tape do what they did without one,
and so does the agent over them, so that the tape shows what the agent does over the peers alone.
-/

namespace DataSync.Obex

open DataSync.Action

/-- A stream that was opened: what the peer said first, and what was written with what came of it, the
latest last. -/
structure Stream where
  greeting : Reaction
  writes : List (Bytes × Except Interruption Reaction) := []

def Stream.write (bytes : Bytes) (result : Except Interruption Reaction) (stream : Stream) : Stream :=
  { stream with writes := stream.writes ++ [(bytes, result)] }

/-- Peers within reach with their streams, the latest first, and what was written without one. -/
structure Taped (π : Type) where
  reach : π
  streams : List Stream := []
  strays : List Bytes := []

variable {π τ α : Type}

namespace Taped

def write (bytes : Bytes) (result : Except Interruption Reaction) (taped : Taped π) : Taped π :=
  match taped.streams with
  | [] => { taped with strays := taped.strays ++ [bytes] }
  | current :: older => { taped with streams := current.write bytes result :: older }

theorem reach_write (bytes : Bytes) (result : Except Interruption Reaction) (taped : Taped π) :
    (taped.write bytes result).reach = taped.reach := by
  unfold write
  split <;> rfl

instance [Peer π] : Peer (Taped π) where
  react bytes := .of fun taped => match (Peer.react bytes).on taped.reach with
    | (result, reach) => (result, { taped with reach }.write bytes result)
  stamina taped := Peer.stamina taped.reach

instance [Reach π] : Reach (Taped π) where
  discover device := (Reach.discover device).within (·.reach) fun reach taped => { taped with reach }
  link address channel := .of fun taped => match (Reach.link address channel).on taped.reach with
    | (.ok greeting, reach) =>
      (.ok greeting, { taped with reach, streams := { greeting } :: taped.streams })
    | (.error e, reach) => (.error e, { taped with reach })

end Taped

theorem Wire.peer_send [Peer π] (octets : Bytes) (wire : Wire (Taped π)) :
    ∃ result reach, ((Wire.send octets).stateAfter wire).peer =
      { wire.peer with reach }.write octets result := by
  refine ⟨((Peer.react octets).on wire.peer.reach).1, ((Peer.react octets).on wire.peer.reach).2, ?_⟩
  simp only [Wire.send, stateAfter, on_of, Peer.react]
  rcases (Peer.react octets).on wire.peer.reach with ⟨e | reaction, reach⟩ <;> rfl

/-! ## Agents over peers with a record -/

/-- Peers within reach with a record beside them. -/
structure Reach.Recorded [Reach π] [Reach τ] (forget : τ → π) : Prop extends
    Peer.Recorded forget where
  discover : ∀ device, Mimics forget (Reach.discover device) (Reach.discover device)
  link : ∀ address channel, Mimics forget (Reach.link address channel) (Reach.link address channel)

theorem Taped.recorded [Reach π] : Reach.Recorded (Taped.reach (π := π)) where
  react bytes taped := by
    simp only [Peer.react, on_of]
    rw [reach_write]
  stamina _ := rfl
  discover device taped := rfl
  link address channel taped := by
    simp only [Reach.link, on_of]
    rcases (Reach.link address channel).on taped.reach with ⟨e | greeting, reach⟩ <;> rfl

/-- Putting a message as one request after the other. -/
theorem putRest_eq [Peer π] (terms : Terms) (packet : Packet) (rest : Bytes) :
    (putRest terms packet rest : Action (Wire π) Interruption Unit) =
      if rest.length ≤ room terms packet then
        request (withLastPart packet rest) >>= fun reply =>
          if reply.code = Response.success then pure () else throw (refused "PUT" reply.code)
      else
        request (withPart packet (rest.take (room terms packet))) >>= fun reply =>
          if reply.code = Response.proceed then
            putRest terms (nextPut terms) (rest.drop (room terms packet))
          else throw (refused "PUT" reply.code) := by
  rw [putRest]
  refine ite_congr rfl (fun _ => funext fun wire => ?_) fun _ => funext fun wire => ?_
  · refine Eq.trans ?_ (on_bind _ _ wire).symm
    simp only [of]
    rcases (request (withLastPart packet rest)).on wire with ⟨e | reply, after⟩
    · rfl
    · dsimp only
      split <;> rfl
  · refine Eq.trans ?_ (on_bind _ _ wire).symm
    simp only [of]
    rcases (request (withPart packet (rest.take (room terms packet)))).on wire with
      ⟨e | reply, after⟩
    · rfl
    · dsimp only
      split <;> rfl

section Wires

variable [Peer π] [Peer τ] {forget : τ → π} (recorded : Peer.Recorded forget)

include recorded

theorem mimics_send (packet : Packet) : Mimics (Wire.plain forget) packet.send packet.send := by
  unfold Packet.send
  cases packet.encode with
  | ok bytes => exact Wire.mimics_send recorded bytes
  | error fault => exact .throw _

theorem mimics_request (packet : Packet) :
    Mimics (Wire.plain forget) (request packet) (request packet) :=
  .bind (mimics_send recorded packet) fun _ => Wire.mimics_reading _

theorem mimics_putRest (terms : Terms) (packet : Packet) (rest : Bytes) :
    Mimics (Wire.plain forget) (putRest terms packet rest) (putRest terms packet rest) := by
  induction length : rest.length using Nat.strongRecOn generalizing packet rest with
  | ind _ inductionHypothesis =>
    subst length
    rw [putRest_eq (π := τ), putRest_eq (π := π)]
    split
    · refine .bind (mimics_request recorded _) fun reply => ?_
      split
      · exact .pure _
      · exact .throw _
    · rename_i more
      refine .bind (mimics_request recorded _) fun reply => ?_
      split
      · exact inductionHypothesis _ (length_drop_room_lt more) _ _ rfl
      · exact .throw _

theorem mimics_fetchRest (terms : Terms) (patience : Nat) (got : Partial) (packet : Packet) :
    Mimics (Wire.plain forget) (fetchRest terms patience got packet)
      (fetchRest terms patience got packet) := by
  induction patience generalizing got packet with
  | zero => exact .throw _
  | succ patience inductionHypothesis =>
    refine .bind (mimics_request recorded packet) fun reply => ?_
    dsimp only
    split
    · exact inductionHypothesis _ _
    · split
      · exact .pure _
      · exact .throw _

theorem mimics_fetch (terms : Terms) (contentType : String) :
    Mimics (Wire.plain forget) (fetch terms contentType) (fetch terms contentType) := by
  refine .get_bind fun wire => ?_
  rw [Wire.patience_plain recorded]
  exact .bind (mimics_fetchRest recorded _ _ _ _) fun got => .pure _

theorem mimics_disconnect (terms : Terms) :
    Mimics (Wire.plain forget) (disconnect terms) (disconnect terms) := by
  refine .bind (mimics_request recorded _) fun reply => ?_
  split
  · exact .throw _
  · exact .pure _

end Wires

/-! ## Links -/

namespace Link

/-- Carry a message over a connection. -/
def carry [Reach π] (message : Message) (noReply : Bool) (connection : Connection) :
    Action (Link π) Interruption (Option Message) := do
  let (answer, inbox) ← onWire connection.inbox do
    put connection.terms message
    if noReply then return none
    else return some (← fetch connection.terms message.contentType)
  modify fun link => { link with connection := some { connection with inbox } }
  return answer

theorem exchange_eq [Reach π] (address : Address) (message : Message) (noReply : Bool) :
    (exchange address message noReply : Action (Link π) Interruption (Option Message)) =
      get >>= fun link => match link.connection with
        | some connection => carry message noReply connection
        | none => connect address >>= carry message noReply := by
  refine funext fun link => ?_
  refine (on_bind _ _ link).trans (Eq.trans ?_ (on_bind _ _ link).symm)
  rw [on_get]
  cases link.connection <;> rfl

/-- A link to the peers without the record. -/
def plain (forget : τ → π) (link : Link τ) : Link π :=
  { reach := forget link.reach, state := link.state, connection := link.connection }

variable {forget : τ → π}

theorem mimics_enter (state : ConnectState) :
    Mimics (plain forget) (enter state) (enter state) :=
  .alter fun _ => rfl

theorem mimics_reaching {action : Action τ Interruption α} {plainAction : Action π Interruption α}
    (mimics : Mimics forget action plainAction) :
    Mimics (plain forget) (reaching action) (reaching plainAction) :=
  .within mimics (fun _ => rfl) (fun _ _ => rfl)

theorem mimics_onWire (inbox : Inbox) {action : Action (Wire τ) Interruption α}
    {plainAction : Action (Wire π) Interruption α}
    (mimics : Mimics (Wire.plain forget) action plainAction) :
    Mimics (plain forget) (onWire inbox action) (onWire inbox plainAction) := by
  intro link
  simp only [onWire, on_of]
  rw [show ({ peer := (link.plain forget).reach, inbox } : Wire π) =
    Wire.plain forget { peer := link.reach, inbox } from rfl, mimics]
  rcases action.on { peer := link.reach, inbox } with ⟨e | a, wire⟩ <;> rfl

variable [Reach π] [Reach τ] (recorded : Reach.Recorded forget)

include recorded

theorem mimics_channelOf (address : Address) :
    Mimics (plain forget) (channelOf address) (channelOf address) := by
  match address with
  | .bluetooth device none =>
    refine .bind (mimics_enter _) fun _ => .bind (mimics_enter _) fun _ => ?_
    refine .bind (mimics_reaching (recorded.discover device)) fun channel => ?_
    exact .bind (mimics_enter _) fun _ => .pure _
  | .bluetooth _ (some channel) => exact .pure _
  | .tcp _ _ => exact .pure _

theorem mimics_connect (address : Address) :
    Mimics (plain forget) (connect address) (connect address) := by
  refine .bind (mimics_enter _) fun _ => .bind (mimics_channelOf recorded address) fun channel => ?_
  refine .bind (mimics_enter _) fun _ => .bind (mimics_enter _) fun _ => ?_
  refine .bind (mimics_reaching (recorded.link address channel)) fun greeting => ?_
  refine .bind (mimics_enter _) fun _ => .bind (mimics_onWire _ ?_) fun (reply, inbox) => ?_
  · exact .bind (mimics_send recorded.toRecorded _) fun _ => Wire.mimics_reading _
  refine .bind (mimics_enter _) fun _ => ?_
  dsimp only
  split
  · exact .throw _
  · exact .bind (.modify fun _ => rfl) fun _ => .bind (mimics_enter _) fun _ => .pure _

theorem mimics_carry (message : Message) (noReply : Bool) (connection : Connection) :
    Mimics (plain forget) (carry message noReply connection) (carry message noReply connection) := by
  refine .bind (mimics_onWire _ ?_) fun (answer, inbox) => .bind (.modify fun _ => rfl) fun _ => .pure _
  refine .bind (mimics_putRest recorded.toRecorded _ _ _) fun _ => ?_
  split
  · exact .pure _
  · exact .bind (mimics_fetch recorded.toRecorded _ _) fun _ => .pure _

theorem mimics_exchange (address : Address) (message : Message) (noReply : Bool) :
    Mimics (plain forget) (exchange address message noReply)
      (exchange address message noReply) := by
  rw [exchange_eq (π := τ), exchange_eq (π := π)]
  refine .get_bind fun link => ?_
  simp only [plain]
  cases link.connection with
  | none => exact .bind (mimics_connect recorded address) (mimics_carry recorded message noReply)
  | some connection => exact mimics_carry recorded message noReply connection

theorem leave_plain (link : Link τ) : (link.plain forget).leave = link.leave.plain forget := by
  rcases link with ⟨reach, state, _ | connection⟩
  · rfl
  · exact congrArg reset ((mimics_onWire connection.inbox
      (mimics_disconnect recorded.toRecorded connection.terms)).stateAfter _)

end Link

/-! ## Agents -/

namespace ObexAgent

/-- An agent over the peers without the record. -/
def plain (forget : τ → π) (agent : ObexAgent τ) : ObexAgent π :=
  { link := agent.link.plain forget, core := agent.core, address := agent.address,
    pending := agent.pending }

variable [Reach π] [Reach τ]

/-- Waiting for a message under way is the exchange of it. -/
theorem wait_active {agent : ObexAgent π} {message : Message} {address : Address}
    (active : agent.core.status = .active) (pending : agent.pending = some message)
    (addressed : agent.address = some address) (noReply : Bool) :
    (Agent.wait noReply agent).2 =
      match agent.core.drive (Link.exchange address message noReply) agent.link with
      | (outcome, time, link) => { agent with
          link := if outcome.isCompleted then link else link.reset
          core := (agent.core.elapse time).finish outcome
          pending := none } := by
  simp [Agent.wait, active, pending, addressed]

variable {forget : τ → π} (recorded : Reach.Recorded forget)

include recorded

theorem perform_plain (call : AgentCall) (agent : ObexAgent τ) :
    call.perform (agent.plain forget) = (call.perform agent).plain forget := by
  cases call with
  | setUrl url =>
    simp only [AgentCall.perform, stateAfter, Agent.setUrl, on_of]
    cases Address.parse url with
    | error e => rfl
    | ok address =>
      by_cases same : agent.address = some address
      · simp [plain, same]
      · simp only [plain, same, if_false]
        rfl
  | send data =>
    simp only [AgentCall.perform, stateAfter, Agent.send, on_of, plain]
    cases agent.core.beginSend true <;> rfl
  | cancel =>
    by_cases active : agent.core.status = .active
    · simp only [AgentCall.perform, Agent.cancel, plain, active, if_true]
      rfl
    · simp [AgentCall.perform, Agent.cancel, plain, active]
  | wait noReply =>
    by_cases active : agent.core.status = .active
    · cases pending : agent.pending with
      | none => simp [AgentCall.perform, Agent.wait, plain, active, pending]
      | some message =>
        cases addressed : agent.address with
        | none => simp [AgentCall.perform, Agent.wait, plain, active, pending, addressed]
        | some address =>
          have same : (agent.plain forget).core.drive (Link.exchange address message noReply)
              (agent.plain forget).link = _ :=
            AgentCore.drive_mimics (Link.mimics_exchange recorded address message noReply) agent.core
              agent.link
          simp only [AgentCall.perform]
          rw [wait_active active pending addressed, wait_active
            (show (agent.plain forget).core.status = .active from active) pending addressed, same]
          rcases agent.core.drive (Link.exchange address message noReply) agent.link
            with ⟨outcome, time, link⟩
          cases outcome <;> rfl
    · simp [AgentCall.perform, Agent.wait, plain, active]
  | shutdown =>
    simp only [AgentCall.perform, Agent.shutdown, plain, Link.leave_plain recorded]
    rfl
  | _ => rfl

/-- Whatever is called for, the record makes no difference. -/
theorem after_plain (calls : List AgentCall) (agent : ObexAgent τ) :
    Agent.after calls (agent.plain forget) = (Agent.after calls agent).plain forget :=
  Agent.after_map (perform_plain recorded) calls agent

end ObexAgent

end DataSync.Obex
