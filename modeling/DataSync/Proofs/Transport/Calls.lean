import DataSync.Proofs.Transport.Core

/-!
# Calls of agents

The calls that are made of a transport agent, as data, and what their effect on its status may be.  An
agent keeps its affairs in order if this holds for every call of every sequence, and if message, answer
and error are there in exactly the statuses that promise them.
-/

namespace DataSync

/-- A call of an agent.  A request to call off comes from outside, through a handle. -/
inductive AgentCall where
  | setUrl (url : String)
  | setProxy (proxy : String)
  | setProxyAuth (user password : String)
  | setContentType (contentType : String)
  | setTimeout (timeout : Option Duration)
  | send (data : Bytes)
  | cancel
  | requestCancel (request : Bool)
  | wait (noReply : Bool)
  | reply
  | shutdown
deriving DecidableEq

namespace AgentCall

/-- The agent after a call, whatever came of it. -/
def perform {α : Type} [Agent α] : AgentCall → α → α
  | setUrl url => (Agent.setUrl url).stateAfter
  | setProxy proxy => Agent.setProxy proxy
  | setProxyAuth user password => Agent.setProxyAuth user password
  | setContentType contentType => Agent.setContentType contentType
  | setTimeout timeout => Agent.setTimeout timeout
  | send data => (Agent.send data).stateAfter
  | cancel => Agent.cancel
  | requestCancel request => Agent.requestCancel request
  | wait noReply => fun agent => (Agent.wait noReply agent).2
  | reply => id
  | shutdown => Agent.shutdown

/-- Whether a call neither touches the message under way nor what came of the last one. -/
def isSetting : AgentCall → Bool
  | send _ | cancel | wait _ | shutdown => false
  | _ => true

/-- The statuses that a call may lead to. -/
def Leads (call : AgentCall) (before after : TransportStatus) : Prop :=
  match call with
  | send _ => before.canSend = true ∧ after = .active ∨ after = before
  | cancel => after = if before = .active then .canceled else before
  | wait _ =>
    if before = .active then after ∈ [.inactive, .gotReply, .canceled, .failed, .timeOut]
    else after = before
  | shutdown => after = .closed
  | _ => after = before

end AgentCall

/-- Whether an agent gives up a transfer with a call: it waits in vain, it is called off, or it takes no
more messages. -/
def AgentCall.GivesUp {α : Type} [Agent α] (call : AgentCall) (agent : α) : Prop :=
  match call with
  | wait noReply => (Agent.wait noReply agent).1 ∈ [.failed, .timeOut, .canceled]
  | cancel => Agent.status agent = .active
  | shutdown => True
  | _ => False

/-- An agent of which can be seen what it keeps, whether a message is under way, and how the transfer
ends that settles it. -/
class Accountable (α : Type) [Agent α] where
  core : α → AgentCore
  isPending : α → Bool
  settle (noReply : Bool) : α → Outcome (Option Message)

open Accountable

variable {α : Type} [Agent α]

/-- The agent after calls, one after the other. -/
def Agent.after (calls : List AgentCall) (agent : α) : α :=
  calls.foldl (fun agent call => call.perform agent) agent

@[simp] theorem Agent.after_nil (agent : α) : Agent.after [] agent = agent := rfl

@[simp] theorem Agent.after_cons (call : AgentCall) (calls : List AgentCall) (agent : α) :
    Agent.after (call :: calls) agent = Agent.after calls (call.perform agent) := rfl

theorem Agent.after_append (first second : List AgentCall) (agent : α) :
    Agent.after (first ++ second) agent = Agent.after second (Agent.after first agent) :=
  List.foldl_append

/-- What every call keeps is kept by all calls. -/
theorem Agent.keeps_after {P : α → Prop} (keeps : ∀ agent call, P agent → P (AgentCall.perform call agent))
    {agent : α} (holds : P agent) (calls : List AgentCall) : P (Agent.after calls agent) := by
  induction calls generalizing agent with
  | nil => exact holds
  | cons call later inductionHypothesis => exact inductionHypothesis (keeps agent call holds)

/-- What makes no difference to any call makes none to all of them. -/
theorem Agent.after_map {β : Type} [Agent β] {f : α → β}
    (same : ∀ call agent, AgentCall.perform call (f agent) = f (call.perform agent))
    (calls : List AgentCall) (agent : α) : Agent.after calls (f agent) = f (Agent.after calls agent) := by
  induction calls generalizing agent with
  | nil => rfl
  | cons call later inductionHypothesis =>
    rw [Agent.after_cons, Agent.after_cons, same, inductionHypothesis]

variable [Accountable α]

/-- How a call settles the message under way, if it does. -/
def AgentCall.outcome? (call : AgentCall) (agent : α) : Option (Outcome (Option Message)) :=
  match call with
  | wait noReply => if Agent.status agent = .active then some (settle noReply agent) else none
  | _ => none

/-- How the message was settled that was settled last. -/
def latestOutcome : List AgentCall → α → Option (Outcome (Option Message))
  | [], _ => none
  | call :: later, agent => (latestOutcome later (call.perform agent)).or (call.outcome? agent)

/-- An agent whose affairs are in order after any calls. -/
structure Orderly (agent : α) : Prop where
  leads : ∀ (calls : List AgentCall) (call : AgentCall),
    call.Leads (Agent.status (Agent.after calls agent))
      (Agent.status (Agent.after (calls ++ [call]) agent))
  isPending_iff : ∀ calls : List AgentCall,
    isPending (Agent.after calls agent) = true ↔ Agent.status (Agent.after calls agent) = .active
  /-- A message that is refused leaves no trace. -/
  refused : ∀ (calls : List AgentCall) {data : Bytes} {e : TransportError} {after : α},
    (Agent.send data).on (Agent.after calls agent) = (.error e, after) →
      after = Agent.after calls agent
  taken : ∀ (calls : List AgentCall) {data : Bytes} {after : α},
    (Agent.send data).on (Agent.after calls agent) = (.ok (), after) → Agent.status after = .active
  wait_status : ∀ (calls : List AgentCall) (noReply : Bool),
    (Agent.wait noReply (Agent.after calls agent)).1 =
      Agent.status (Agent.wait noReply (Agent.after calls agent)).2
  /-- What comes of a message is what comes of its transfer. -/
  settled : ∀ (calls : List AgentCall) (noReply : Bool),
    Agent.status (Agent.after calls agent) = .active →
      (Agent.wait noReply (Agent.after calls agent)).1 =
        (settle noReply (Agent.after calls agent)).status
  /-- There is an answer exactly in one status. -/
  reply_isOk_iff : ∀ calls : List AgentCall,
    (∃ reply, Agent.reply (Agent.after calls agent) = .ok reply) ↔
      Agent.status (Agent.after calls agent) = .gotReply
  /-- The answer is the one that the latest transfer brought. -/
  reply_latest : ∀ (calls : List AgentCall) {reply : Message},
    Agent.reply (Agent.after calls agent) = .ok reply →
      latestOutcome calls agent = some (.completed (some reply))
  error_present : ∀ calls : List AgentCall,
    Agent.status (Agent.after calls agent) ∈ [.failed, .timeOut] →
      (Agent.lastError (Agent.after calls agent)).isSome = true
  error_absent : ∀ calls : List AgentCall,
    Agent.status (Agent.after calls agent) ∈ [.inactive, .active, .gotReply, .canceled] →
      Agent.lastError (Agent.after calls agent) = none
  closed : ∀ calls later : List AgentCall,
    Agent.status (Agent.after calls agent) = .closed →
      Agent.status (Agent.after (calls ++ later) agent) = .closed

omit [Accountable α] in
theorem AgentCall.perform_send_of_ok {data : Bytes} {agent after : α}
    (taken : (Agent.send data).on agent = (.ok (), after)) : (send data).perform agent = after :=
  congrArg Prod.snd taken

/-! ## Laws -/

/-- What an agent does with its core, call by call. -/
class LawfulAgent (α : Type) [Agent α] [Accountable α] : Prop where
  status_eq : ∀ agent : α, Agent.status agent = (core agent).status
  reply_eq : ∀ agent : α, Agent.reply agent = (core agent).answer
  lastError_eq : ∀ agent : α, Agent.lastError agent = (core agent).lastError
  setting : ∀ {call : AgentCall} (agent : α), call.isSetting = true →
    (core (call.perform agent)).status = (core agent).status ∧
    (core (call.perform agent)).reply = (core agent).reply ∧
    (core (call.perform agent)).lastError = (core agent).lastError ∧
    isPending (call.perform agent) = isPending agent
  send_error : ∀ {data : Bytes} {agent after : α} {e : TransportError},
    (Agent.send data).on agent = (.error e, after) → after = agent
  send_ok : ∀ {data : Bytes} {agent after : α},
    (Agent.send data).on agent = (.ok (), after) →
      (core agent).status.canSend = true ∧ core after = (core agent).sending ∧
        isPending after = true
  cancel : ∀ agent : α,
    (core agent).status = .active ∧ core (Agent.cancel agent) = (core agent).canceled ∧
        isPending (Agent.cancel agent) = false ∨
      (core agent).status ≠ .active ∧ Agent.cancel agent = agent
  shutdown : ∀ agent : α,
    core (Agent.shutdown agent) = (core agent).closed ∧ isPending (Agent.shutdown agent) = false
  wait_active : ∀ (noReply : Bool) {agent : α}, (core agent).status = .active →
    isPending (Agent.wait noReply agent).2 = false ∧
    (Agent.wait noReply agent).1 = Agent.status (Agent.wait noReply agent).2 ∧
    ∃ time, core (Agent.wait noReply agent).2 =
      ((core agent).elapse time).finish (settle noReply agent)
  wait_idle : ∀ (noReply : Bool) {agent : α}, (core agent).status ≠ .active →
    Agent.wait noReply agent = (Agent.status agent, agent)

end DataSync
