import DataSync.Proofs.Transport.Calls

/-!
# Orderly agents

Every lawful agent that was not used yet keeps its affairs in order over all sequences of calls: each
call moves the status only as calls of its kind may, and leaves message, answer and error accounted
for.
-/

namespace DataSync

open Accountable DataSync.Action

/-- The affairs of an agent, given how its latest message was settled. -/
structure Accounted {α : Type} [Agent α] [Accountable α] (latest : Option (Outcome (Option Message)))
    (agent : α) : Prop where
  isPending_iff : isPending agent = true ↔ (core agent).status = .active
  replied : (core agent).status = .gotReply →
    ∃ reply, (core agent).reply = some reply ∧ latest = some (.completed (some reply))
  unanswered : (core agent).status ≠ .gotReply → (core agent).reply = none
  error_present : (core agent).status ∈ [.failed, .timeOut] → (core agent).lastError.isSome = true
  error_absent : (core agent).status ∈ [.inactive, .active, .gotReply, .canceled] →
    (core agent).lastError = none

section Laws

variable {α : Type} [Agent α] [Accountable α] [LawfulAgent α] {agent : α}
  {latest : Option (Outcome (Option Message))}

namespace LawfulAgent

theorem perform_send_of_error {data : Bytes} {e : TransportError} {after : α}
    (refused : (Agent.send data).on agent = (.error e, after)) :
    (AgentCall.send data).perform agent = agent := by
  simp [AgentCall.perform, stateAfter, refused, send_error refused]

/-- Each call moves the status only as calls of its kind may. -/
theorem leads (call : AgentCall) (agent : α) :
    call.Leads (Agent.status agent) (Agent.status (call.perform agent)) := by
  simp only [status_eq]
  cases call with
  | send data =>
    rcases sent : (Agent.send data).on agent with ⟨e | ⟨⟨⟩⟩, after⟩
    · rw [perform_send_of_error sent]
      exact .inr rfl
    · obtain ⟨canSend, taken, -⟩ := send_ok sent
      rw [AgentCall.perform_send_of_ok sent, taken]
      exact .inl ⟨canSend, rfl⟩
  | cancel =>
    rcases LawfulAgent.cancel agent with ⟨active, canceled, -⟩ | ⟨idle, same⟩
    · simp [AgentCall.Leads, AgentCall.perform, active, canceled, AgentCore.canceled]
    · simp [AgentCall.Leads, AgentCall.perform, idle, same]
  | wait noReply =>
    by_cases active : (core agent).status = .active
    · obtain ⟨-, -, time, settled⟩ := wait_active noReply active
      simp only [AgentCall.Leads, AgentCall.perform, active, if_true, settled,
        AgentCore.status_finish]
      rcases settle noReply agent with (_ | _) | _ | _ | _ <;> simp [Outcome.status]
    · simp [AgentCall.Leads, AgentCall.perform, active, wait_idle noReply active]
  | shutdown =>
    simp [AgentCall.Leads, AgentCall.perform, (LawfulAgent.shutdown agent).1, AgentCore.closed]
  | _ => exact (setting agent rfl).1

/-- Waiting gives the status that the agent has then. -/
theorem wait_status (noReply : Bool) (agent : α) :
    (Agent.wait noReply agent).1 = Agent.status (Agent.wait noReply agent).2 := by
  by_cases active : (core agent).status = .active
  · exact (wait_active noReply active).2.1
  · rw [wait_idle noReply active]

/-- An agent that gave up stands still. -/
theorem status_of_givesUp {call : AgentCall} (givesUp : call.GivesUp agent) :
    Agent.status (call.perform agent) ∈ [.failed, .timeOut, .canceled, .closed] := by
  cases call with
  | wait noReply =>
    simp only [AgentCall.GivesUp, wait_status] at givesUp
    exact List.mem_append_left [.closed] givesUp
  | cancel =>
    have active : Agent.status agent = .active := givesUp
    have leads := leads .cancel agent
    rw [AgentCall.Leads, if_pos active] at leads
    simp [leads]
  | shutdown =>
    have closed : Agent.status (AgentCall.shutdown.perform agent) = .closed := leads .shutdown agent
    simp [closed]
  | _ => exact givesUp.elim

theorem accounted_setting (accounted : Accounted latest agent) {call : AgentCall}
    (isSetting : call.isSetting = true) : Accounted latest (call.perform agent) := by
  obtain ⟨status, reply, lastError, pending⟩ := setting agent isSetting
  constructor
  · rw [status, pending]
    exact accounted.isPending_iff
  · rw [status, reply]
    exact accounted.replied
  · rw [status, reply]
    exact accounted.unanswered
  · rw [status, lastError]
    exact accounted.error_present
  · rw [status, lastError]
    exact accounted.error_absent

/-- Each call keeps the affairs of an agent accounted for. -/
theorem accounted_perform (accounted : Accounted latest agent) (call : AgentCall) :
    Accounted ((call.outcome? agent).or latest) (call.perform agent) := by
  -- Only waiting for a message under way settles it, so all other calls keep the latest outcome.
  cases call with
  | send data =>
    rcases sent : (Agent.send data).on agent with ⟨e | ⟨⟨⟩⟩, after⟩
    · rw [perform_send_of_error sent]
      exact accounted
    · obtain ⟨-, taken, pending⟩ := send_ok sent
      rw [AgentCall.perform_send_of_ok sent]
      constructor <;> simp [taken, pending, AgentCore.sending]
  | cancel =>
    rcases LawfulAgent.cancel agent with ⟨active, canceled, pending⟩ | ⟨idle, same⟩
    · have faultless := accounted.error_absent (by simp [active])
      have unanswered := accounted.unanswered (by simp [active])
      constructor <;>
        simp [AgentCall.perform, canceled, pending, AgentCore.canceled, faultless, unanswered]
    · rw [show AgentCall.cancel.perform agent = agent from same]
      exact accounted
  | wait noReply =>
    by_cases active : (core agent).status = .active
    · obtain ⟨pending, -, time, settled⟩ := wait_active noReply active
      have faultless : ((core agent).elapse time).lastError = none :=
        accounted.error_absent (by simp [active])
      have unanswered : ((core agent).elapse time).reply = none :=
        accounted.unanswered (by simp [active])
      have latest' : (AgentCall.wait noReply).outcome? agent = some (settle noReply agent) := by
        simp [AgentCall.outcome?, status_eq, active]
      rw [latest', Option.some_or]
      constructor <;> simp only [AgentCall.perform, settled, pending, AgentCore.status_finish,
        AgentCore.reply_finish unanswered, AgentCore.lastError_finish faultless]
      all_goals
        rcases settle noReply agent with (_ | _) | _ | _ | _ <;>
          simp [Outcome.status, Outcome.reply?, Outcome.error?]
    · rw [show (AgentCall.wait noReply).perform agent = agent from by
        simp [AgentCall.perform, wait_idle noReply active],
        show (AgentCall.wait noReply).outcome? agent = none from by
          simp [AgentCall.outcome?, status_eq, active]]
      exact accounted
  | shutdown =>
    obtain ⟨closed, pending⟩ := LawfulAgent.shutdown agent
    constructor <;> simp [AgentCall.perform, closed, pending, AgentCore.closed]
  | _ => exact accounted_setting accounted rfl

theorem accounted_after (accounted : Accounted latest agent) (calls : List AgentCall) :
    Accounted ((latestOutcome calls agent).or latest) (Agent.after calls agent) := by
  induction calls generalizing agent latest with
  | nil => exact accounted
  | cons call later inductionHypothesis =>
    have next := inductionHypothesis (accounted_perform accounted call)
    rwa [← Option.or_assoc] at next

/-- The agent takes no more messages once it is closed. -/
theorem closed_after (closed : Agent.status agent = .closed) (calls : List AgentCall) :
    Agent.status (Agent.after calls agent) = .closed := by
  refine Agent.keeps_after (P := fun agent => Agent.status agent = .closed) ?_ closed calls
  intro agent call closed
  have leads := leads call agent
  rw [closed] at leads
  cases call <;> simpa [AgentCall.Leads, TransportStatus.canSend] using leads

/-- A lawful agent that was not used yet stays orderly. -/
theorem orderly (unused : core agent = {}) (idle : isPending agent = false) : Orderly agent := by
  -- All but the effects of single calls follows from what is accounted for after the calls.
  have accounted (calls : List AgentCall) :
      Accounted (latestOutcome calls agent) (Agent.after calls agent) := by
    have fresh : Accounted none agent := by constructor <;> simp [unused, idle]
    simpa using accounted_after fresh calls
  refine
    { leads := fun calls call => ?_
      isPending_iff := fun calls => ?_
      refused := fun calls _ _ _ refused => send_error refused
      taken := fun calls _ _ taken => ?_
      wait_status := fun calls noReply => wait_status noReply _
      settled := fun calls noReply active => ?_
      reply_isOk_iff := fun calls => ?_
      reply_latest := fun calls _ replied => ?_
      error_present := fun calls failed => ?_
      error_absent := fun calls fine => ?_
      closed := fun calls later closed => ?_ }
  · rw [Agent.after_append]
    exact leads call _
  · rw [status_eq]
    exact (accounted calls).isPending_iff
  · rw [status_eq, (send_ok taken).2.1]
    rfl
  · rw [status_eq] at active
    obtain ⟨-, status, time, finished⟩ := wait_active noReply active
    rw [status, status_eq, finished, AgentCore.status_finish]
  · rw [status_eq, reply_eq]
    constructor
    · rintro ⟨reply, replied⟩
      exact (AgentCore.answer_eq_ok.1 replied).1
    · intro gotReply
      obtain ⟨reply, replied, -⟩ := (accounted calls).replied gotReply
      exact ⟨reply, AgentCore.answer_eq_ok.2 ⟨gotReply, replied⟩⟩
  · rw [reply_eq] at replied
    obtain ⟨gotReply, there⟩ := AgentCore.answer_eq_ok.1 replied
    obtain ⟨reply, same, latest⟩ := (accounted calls).replied gotReply
    rw [there] at same
    cases same
    exact latest
  · rw [status_eq] at failed
    rw [lastError_eq]
    exact (accounted calls).error_present failed
  · rw [status_eq] at fine
    rw [lastError_eq]
    exact (accounted calls).error_absent fine
  · rw [Agent.after_append]
    exact closed_after closed later

end LawfulAgent

end Laws

end DataSync
