import DataSync.Obex.Agent
import DataSync.Proofs.Transport.Calls
import DataSync.Rehearsal.ScriptedReach

/-!
# Closed agents

An agent that was shut down takes no more messages, has no connection, and leaves its peers alone,
whatever is called for.  Only what it shows of its way to a connection is not final: turning to another
peer puts that back to the start, until the agent is shut down again.
-/

namespace DataSync.Obex

open DataSync.Action

variable {π : Type} [Reach π]

theorem Link.connection_leave (link : Link π) : link.leave.connection = none := by
  unfold leave
  split <;> rfl

theorem Link.leave_of_unconnected {link : Link π} (unconnected : link.connection = none) :
    link.leave = link.reset := by
  rw [leave, unconnected]

namespace ObexAgent

/-- Whether a URL is that of another peer than the one that an agent has. -/
def TurnsTo (url : String) (agent : ObexAgent π) : Prop :=
  ∃ address, Address.parse url = .ok address ∧ agent.address ≠ some address

/-- An agent that takes no more messages and has no connection to the peers within reach, which are in
some state. -/
structure Closed (reach : π) (agent : ObexAgent π) : Prop where
  status : agent.core.status = .closed
  unconnected : agent.link.connection = none
  reach_eq : agent.link.reach = reach

variable {reach : π} {agent : ObexAgent π} {call : AgentCall}

theorem closed_shutdown (agent : ObexAgent π) :
    Closed (Agent.shutdown agent).link.reach (Agent.shutdown agent) :=
  ⟨rfl, agent.link.connection_leave, rfl⟩

theorem Closed.perform_eq (closed : Closed reach agent)
    (unfit : (∃ data, call = .send data) ∨ (∃ noReply, call = .wait noReply) ∨ call = .cancel) :
    call.perform agent = agent := by
  have idle : agent.core.status ≠ .active := by simp [closed.status]
  obtain ⟨data, rfl⟩ | ⟨noReply, rfl⟩ | rfl := unfit
  · simp [AgentCall.perform, stateAfter, Agent.send, AgentCore.beginSend, closed.status]
  · exact congrArg Prod.snd (if_pos idle)
  · exact if_neg idle

/-- Whatever is called for, a closed agent stays closed and does nothing to its peers. -/
theorem Closed.perform (closed : Closed reach agent) (call : AgentCall) :
    Closed reach (call.perform agent) := by
  cases call with
  | setUrl url =>
    simp only [AgentCall.perform, stateAfter, Agent.setUrl, on_of]
    split
    · exact closed
    · -- Another peer is only noted: there is no connection that could be dropped.
      split
      · exact ⟨closed.status, closed.unconnected, closed.reach_eq⟩
      · exact ⟨closed.status, rfl, closed.reach_eq⟩
  | send | wait | cancel => rwa [closed.perform_eq (by simp)]
  | shutdown =>
    have again := closed_shutdown agent
    refine ⟨again.status, again.unconnected, ?_⟩
    change agent.link.leave.reach = reach
    rw [Link.leave_of_unconnected closed.unconnected]
    exact closed.reach_eq
  | _ => exact ⟨closed.status, closed.unconnected, closed.reach_eq⟩

theorem Closed.after (closed : Closed reach agent) (calls : List AgentCall) :
    Closed reach (Agent.after calls agent) :=
  Agent.keeps_after (fun _ call closed => closed.perform call) closed calls

/-! ## The way to a connection -/

theorem state_of_turnsTo {url : String} (turns : TurnsTo url agent) :
    ((AgentCall.setUrl url).perform agent).link.state = .start := by
  obtain ⟨address, parsed, other⟩ := turns
  simp [AgentCall.perform, stateAfter, Agent.setUrl, parsed, other, Link.reset]

/-- All calls but turning to another peer and shutting down leave a closed agent where it is. -/
theorem Closed.state_perform (closed : Closed reach agent) (other : call ≠ .shutdown)
    (stays : ∀ url, call = .setUrl url → ¬ TurnsTo url agent) :
    (call.perform agent).link.state = agent.link.state := by
  cases call with
  | setUrl url =>
    simp only [AgentCall.perform, stateAfter, Agent.setUrl, on_of]
    split
    · rfl
    · rename_i address parsed
      have same : agent.address = some address :=
        Decidable.byContradiction fun other => stays url rfl ⟨address, parsed, other⟩
      simp [same]
  | send | wait | cancel => rw [closed.perform_eq (by simp)]
  | shutdown => exact absurd rfl other
  | _ => rfl

/-- Whether calls leave an agent shut down: whenever it turns to another peer, it is shut down again
later. -/
def LeftShutDown : List AgentCall → ObexAgent π → Prop
  | [], _ => True
  | call :: later, agent =>
    ((∃ url, call = .setUrl url ∧ TurnsTo url agent) → .shutdown ∈ later) ∧
      LeftShutDown later (call.perform agent)

/-- A closed agent is at the end after calls if it was there before them or is shut down again, and they
leave it there. -/
theorem Closed.state_after_iff (closed : Closed reach agent) (calls : List AgentCall) :
    (Agent.after calls agent).link.state = .ended ↔
      (agent.link.state = .ended ∨ .shutdown ∈ calls) ∧ LeftShutDown calls agent := by
  induction calls generalizing agent with
  | nil => simp [LeftShutDown]
  | cons call later inductionHypothesis =>
    rw [Agent.after_cons, inductionHypothesis (closed.perform call), LeftShutDown, List.mem_cons]
    -- Shutting down puts the way to its end, turning to another peer to its start, all else keeps it.
    by_cases again : call = .shutdown
    · simp [again, AgentCall.perform, Agent.shutdown]
    · by_cases turns : ∃ url, call = .setUrl url ∧ TurnsTo url agent
      · have atStart : (call.perform agent).link.state = .start := by
          obtain ⟨url, rfl, turns⟩ := turns
          exact state_of_turnsTo turns
        simp only [atStart, turns, Ne.symm again, reduceCtorEq, false_or, true_imp_iff]
        exact ⟨fun ⟨ended, left⟩ => ⟨.inr ended, ended, left⟩, And.right⟩
      · have same := closed.state_perform again fun url is other => turns ⟨url, is, other⟩
        simp only [same, turns, Ne.symm again, false_or, false_imp_iff, true_and]

/-- Shutting down is final, whatever agent it is and whatever is called for later: the status stays
closed, there is no connection, and nothing reaches the peers any more.  The agent shows that its way to
a connection has ended, too, exactly unless it turned to another peer and was not shut down since. -/
theorem shutdown_final (agent : ObexAgent π) (later : List AgentCall) :
    Agent.status (Agent.after later (Agent.shutdown agent)) = .closed ∧
    (Agent.after later (Agent.shutdown agent)).link.connection = none ∧
    (Agent.after later (Agent.shutdown agent)).link.reach = (Agent.shutdown agent).link.reach ∧
    ((Agent.after later (Agent.shutdown agent)).link.state = .ended ↔
      LeftShutDown later (Agent.shutdown agent)) := by
  have closed := closed_shutdown agent
  obtain ⟨status, unconnected, reach⟩ := closed.after later
  have ended : (Agent.shutdown agent).link.state = .ended := rfl
  exact ⟨status, unconnected, reach, by simpa [ended] using closed.state_after_iff later⟩

/-- An agent that was shut down is at the start again once it has another peer. -/
theorem shut_down_agent_at_start :
    (Agent.after [.setUrl "obex-tcp://phone", .shutdown, .setUrl "obex-tcp://tablet"]
      ({ link := { reach := {} } } : ObexAgent ScriptedReach)).link.state = .start ∧
    ¬ ∀ calls later : List AgentCall, (Agent.after (calls ++ .shutdown :: later)
      ({ link := { reach := {} } } : ObexAgent ScriptedReach)).link.state = .ended := by
  have atStart : (Agent.after [.setUrl "obex-tcp://phone", .shutdown, .setUrl "obex-tcp://tablet"]
      ({ link := { reach := {} } } : ObexAgent ScriptedReach)).link.state = .start := by
    decide +kernel
  refine ⟨atStart, fun ended => ?_⟩
  have atEnd := ended [.setUrl "obex-tcp://phone"] [.setUrl "obex-tcp://tablet"]
  rw [List.cons_append, List.nil_append, atStart] at atEnd
  cases atEnd

end ObexAgent

end DataSync.Obex
