import DataSync.Http.Agent
import DataSync.Local.Agent
import DataSync.Obex.Agent
import DataSync.Proofs.Transport.Orderly
import DataSync.Rehearsal.ScriptedAgent

/-!
# Lawful agents

The agents over HTTP, over OBEX, to a child and with scripted answers are lawful, and so orderly,
whatever the other side does.
-/

namespace DataSync

open Accountable DataSync.Action

/-- An agent that leaves it to its core whether there is a message to call off. -/
theorem cancel_cases {α : Type} [Agent α] [Accountable α] {agent canceled : α}
    (cancels : Agent.cancel agent = if (core agent).status = .active then canceled else agent)
    (calledOff : core canceled = (core agent).canceled) (idle : isPending canceled = false) :
    (core agent).status = .active ∧ core (Agent.cancel agent) = (core agent).canceled ∧
        isPending (Agent.cancel agent) = false ∨
      (core agent).status ≠ .active ∧ Agent.cancel agent = agent := by
  by_cases active : (core agent).status = .active
  · rw [if_pos active] at cancels
    rw [cancels]
    exact .inl ⟨active, calledOff, idle⟩
  · rw [if_neg active] at cancels
    exact .inr ⟨active, cancels⟩

namespace Http

variable {γ : Type} [Client γ]

instance : Accountable (HttpAgent γ) where
  core := HttpAgent.core
  isPending agent := agent.pending.isSome
  settle noReply agent := match agent.pending with
    | none => .canceled
    | some request => (agent.core.drive (HttpAgent.transfer request noReply) agent.client).1

instance : LawfulAgent (HttpAgent γ) where
  status_eq _ := rfl
  reply_eq _ := rfl
  lastError_eq _ := rfl
  setting {call} agent isSetting := by
    cases call with
    | setUrl url =>
      by_cases valid : isUrl url <;>
        simp [AgentCall.perform, Agent.setUrl, stateAfter, valid, core, isPending]
    | send | cancel | wait | shutdown => cases isSetting
    | _ => exact ⟨rfl, rfl, rfl, rfl⟩
  send_error refused := AgentCore.eq_of_refused refused
  send_ok taken := by
    obtain ⟨canSend, rfl⟩ := AgentCore.eq_take_of_taken taken
    exact ⟨canSend, rfl, rfl⟩
  cancel _ := cancel_cases rfl rfl rfl
  shutdown agent := ⟨rfl, rfl⟩
  wait_active noReply {agent} active := by
    replace active : agent.core.status = .active := active
    simp only [Agent.wait, active, ne_eq, not_true_eq_false, if_false]
    cases pending : agent.pending with
    | none => exact ⟨by simp [isPending], rfl, 0, by simp [core, settle, pending]⟩
    | some request => exact ⟨rfl, rfl, _, by simp only [core, settle, pending]; rfl⟩
  wait_idle _ {_} idle := if_pos idle

end Http

namespace Obex

variable {π : Type} [Reach π]

instance : Accountable (ObexAgent π) where
  core := ObexAgent.core
  isPending agent := agent.pending.isSome
  settle noReply agent := match agent.pending, agent.address with
    | some message, some address =>
      (agent.core.drive (Link.exchange address message noReply) agent.link).1
    | _, _ => .failed .noUrl

instance : LawfulAgent (ObexAgent π) where
  status_eq _ := rfl
  reply_eq _ := rfl
  lastError_eq _ := rfl
  setting {call} agent isSetting := by
    cases call with
    | setUrl url =>
      simp only [AgentCall.perform, Agent.setUrl, stateAfter, on_of]
      split <;> exact ⟨rfl, rfl, rfl, rfl⟩
    | send | cancel | wait | shutdown => cases isSetting
    | _ => exact ⟨rfl, rfl, rfl, rfl⟩
  send_error refused := AgentCore.eq_of_refused refused
  send_ok taken := by
    obtain ⟨canSend, rfl⟩ := AgentCore.eq_take_of_taken taken
    exact ⟨canSend, rfl, rfl⟩
  cancel _ := cancel_cases rfl rfl rfl
  shutdown agent := ⟨rfl, rfl⟩
  wait_active noReply {agent} active := by
    replace active : agent.core.status = .active := active
    simp only [Agent.wait, active, ne_eq, not_true_eq_false, if_false]
    cases pending : agent.pending with
    | none => exact ⟨rfl, rfl, 0, by simp [core, settle, pending]⟩
    | some message =>
      cases address : agent.address with
      | none => exact ⟨rfl, rfl, 0, by simp [core, settle, pending, address]⟩
      | some address' => exact ⟨rfl, rfl, _, by simp only [core, settle, pending, address]; rfl⟩
  wait_idle _ {_} idle := if_pos idle

end Obex

namespace Local

variable {π : Type} [Machine π]

instance : Accountable (LocalAgent π) where
  core := LocalAgent.core
  isPending agent := agent.pending.isSome
  settle noReply agent := match agent.pending with
    | none => .canceled
    | some message => (agent.core.drive (Link.exchange agent.start message noReply) agent.link).1

instance : LawfulAgent (LocalAgent π) where
  status_eq _ := rfl
  reply_eq _ := rfl
  lastError_eq _ := rfl
  setting {call} agent isSetting := by
    cases call with
    | send | cancel | wait | shutdown => cases isSetting
    | _ => exact ⟨rfl, rfl, rfl, rfl⟩
  send_error {data agent after e} refused := by
    simp only [Agent.send, on_of] at refused
    split at refused
    · cases refused
      rfl
    · exact AgentCore.eq_of_refused refused
  send_ok {data agent after} taken := by
    simp only [Agent.send, on_of] at taken
    split at taken
    · cases taken
    · obtain ⟨canSend, rfl⟩ := AgentCore.eq_take_of_taken taken
      exact ⟨canSend, rfl, rfl⟩
  cancel _ := cancel_cases rfl rfl rfl
  shutdown agent := by
    simp only [Agent.shutdown, core, isPending]
    split
    · split <;> exact ⟨rfl, rfl⟩
    · exact ⟨rfl, rfl⟩
  wait_active noReply {agent} active := by
    replace active : agent.core.status = .active := active
    simp only [Agent.wait, active, ne_eq, not_true_eq_false, if_false]
    cases pending : agent.pending with
    | none => exact ⟨by simp [isPending], rfl, 0, by simp [core, settle, pending]⟩
    | some message => exact ⟨rfl, rfl, _, by simp only [core, settle, pending]; rfl⟩
  wait_idle _ {_} idle := if_pos idle

end Local

variable {η : Type}

/-- A scripted agent keeps no message apart from its log; one is under way while the agent is active. -/
instance : Accountable (ScriptedAgent η) where
  core := ScriptedAgent.core
  isPending agent := agent.core.status = .active
  settle noReply agent := (agent.core.drive (ScriptedAgent.takeAnswer noReply) agent.script).1

instance : LawfulAgent (ScriptedAgent η) where
  status_eq _ := rfl
  reply_eq _ := rfl
  lastError_eq _ := rfl
  setting {call} agent isSetting := by
    cases call with
    | send | cancel | wait | shutdown => cases isSetting
    | _ => exact ⟨rfl, rfl, rfl, rfl⟩
  send_error refused := AgentCore.eq_of_refused refused
  send_ok taken := by
    obtain ⟨canSend, rfl⟩ := AgentCore.eq_take_of_taken taken
    exact ⟨canSend, rfl, rfl⟩
  cancel _ := cancel_cases rfl rfl rfl
  shutdown agent := ⟨rfl, rfl⟩
  wait_active noReply {agent} active := by
    replace active : agent.core.status = .active := active
    simp only [Agent.wait, active, ne_eq, not_true_eq_false, if_false]
    refine ⟨?_, rfl, _, rfl⟩
    simp only [isPending, AgentCore.status_finish]
    rcases (agent.core.drive (ScriptedAgent.takeAnswer noReply) agent.script).1
      with (_ | _) | _ | _ | _ <;> rfl
  wait_idle _ {_} idle := if_pos idle

/-- Whatever the other side does, the agents keep their affairs in order from their first call on. -/
theorem agents_orderly :
    (∀ (γ : Type) [Http.Client γ] (client : γ), Orderly ({ client } : Http.HttpAgent γ)) ∧
    (∀ (π : Type) [Obex.Reach π] (reach : π), Orderly ({ link := { reach } } : Obex.ObexAgent π)) ∧
    (∀ (π : Type) [Local.Machine π] (machine : π) (start : Local.StartSync),
      Orderly ({ link := { machine }, start } : Local.LocalAgent π)) ∧
    ∀ (η : Type) (script : List ScriptedAnswer) (hooks : List (Nat × η)),
      Orderly ({ script, hooks } : ScriptedAgent η) :=
  ⟨fun _ _ _ => LawfulAgent.orderly rfl rfl, fun _ _ _ => LawfulAgent.orderly rfl rfl,
    fun _ _ _ _ => LawfulAgent.orderly rfl rfl, fun _ _ _ => LawfulAgent.orderly rfl rfl⟩

end DataSync
