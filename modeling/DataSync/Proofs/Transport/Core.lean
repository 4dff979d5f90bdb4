import DataSync.Proofs.Keeps
import DataSync.Transport.Agent

/-!
# The life of a message

The core of an agent over the life of a message: it is taken, its transfer ends in one of five ways or
is called off, and what the core then says of status, answer and error fits together.
-/

namespace DataSync

namespace Outcome

/-- The status of an agent whose transfer ended like this. -/
def status : Outcome (Option Message) → TransportStatus
  | completed (some _) => .gotReply
  | completed none => .inactive
  | failed _ => .failed
  | canceled => .canceled
  | timedOut => .timeOut

/-- The answer that a transfer brought. -/
def reply? : Outcome (Option Message) → Option Message
  | completed reply => reply
  | _ => none

/-- What went wrong in a transfer. -/
def error? : Outcome (Option Message) → Option TransportError
  | failed e => some e
  | timedOut => some .timeout
  | _ => none

/-- However a transfer ends, the next message can be handed over. -/
@[simp] theorem canSend_status (outcome : Outcome (Option Message)) :
    outcome.status.canSend = true := by
  rcases outcome with (_ | _) | _ | _ | _ <;> rfl

end Outcome

namespace AgentCore

variable {core next : AgentCore} {outcome : Outcome (Option Message)}

/-- The core with a message under way. -/
def sending (core : AgentCore) : AgentCore :=
  { core with
    cancelRequested := false, reply := none, lastError := none, deadline := core.timeout,
    status := .active }

theorem beginSend_eq_ok {needsUrl : Bool} :
    core.beginSend needsUrl = .ok next ↔
      core.status.canSend = true ∧ (needsUrl && core.url.isNone) = false ∧ next = core.sending := by
  unfold beginSend
  cases standing : core.status <;> simp only [TransportStatus.canSend, reduceCtorEq, false_and]
  all_goals
    cases refused : needsUrl && core.url.isNone
    · simp [sending, eq_comm]
    · simp

section Sending

variable {α : Type} {needsUrl : Bool} {agent after : α} {take : AgentCore → α}

/-- An agent that leaves it to its core whether it takes a message is unchanged if it does not. -/
theorem eq_of_refused {e : TransportError}
    (refused : (match core.beginSend needsUrl with
      | .error e => (.error e, agent)
      | .ok core => (.ok (), take core)) = ((.error e, after) : Except TransportError Unit × α)) :
    after = agent := by
  split at refused
  · cases refused
    rfl
  · cases refused

theorem eq_take_of_taken
    (taken : (match core.beginSend needsUrl with
      | .error e => (.error e, agent)
      | .ok core => (.ok (), take core)) = ((.ok (), after) : Except TransportError Unit × α)) :
    core.status.canSend = true ∧ after = take core.sending := by
  split at taken
  · cases taken
  · rename_i begun
    obtain ⟨canSend, -, rfl⟩ := beginSend_eq_ok.1 begun
    cases taken
    exact ⟨canSend, rfl⟩

end Sending

@[simp] theorem elapse_zero (core : AgentCore) : core.elapse 0 = core := by
  simp [elapse]

theorem answer_eq_ok {reply : Message} :
    core.answer = .ok reply ↔ core.status = .gotReply ∧ core.reply = some reply := by
  unfold answer
  cases core.status <;> cases core.reply <;> simp

/-! ## The end of a transfer -/

@[simp] theorem status_finish (core : AgentCore) (outcome : Outcome (Option Message)) :
    (core.finish outcome).status = outcome.status := by
  rcases outcome with (_ | _) | _ | _ | _ <;> rfl

@[simp] theorem contentType_finish (core : AgentCore) (outcome : Outcome (Option Message)) :
    (core.finish outcome).contentType = core.contentType := by
  rcases outcome with (_ | _) | _ | _ | _ <;> rfl

@[simp] theorem url_finish (core : AgentCore) (outcome : Outcome (Option Message)) :
    (core.finish outcome).url = core.url := by
  rcases outcome with (_ | _) | _ | _ | _ <;> rfl

@[simp] theorem timeout_finish (core : AgentCore) (outcome : Outcome (Option Message)) :
    (core.finish outcome).timeout = core.timeout := by
  rcases outcome with (_ | _) | _ | _ | _ <;> rfl

theorem reply_finish (unanswered : core.reply = none) :
    (core.finish outcome).reply = outcome.reply? := by
  rcases outcome with (_ | _) | _ | _ | _ <;> first | rfl | exact unanswered

theorem lastError_finish (faultless : core.lastError = none) :
    (core.finish outcome).lastError = outcome.error? := by
  rcases outcome with (_ | _) | _ | _ | _ <;> first | rfl | exact faultless

/-- What is completed is what the transfer gave. -/
theorem drive_eq_completed {σ α : Type} {transfer : Action σ Interruption α} {s after : σ} {a : α}
    {time : Duration} (driven : core.drive transfer s = (.completed a, time, after)) :
    transfer.on s = (.ok a, after) := by
  unfold drive at driven
  split at driven
  · cases driven
  · -- All other ends of the transfer make another outcome.
    split at driven
    all_goals first
      | cases driven; assumption
      | (cases limit : core.deadline <;> rw [limit] at driven <;> cases driven)
      | cases driven

/-- A transfer that nobody called off before runs to its end, whatever comes of it. -/
theorem drive_state {σ α : Type} (uncanceled : core.cancelRequested = false)
    (transfer : Action σ Interruption α) (s : σ) :
    (core.drive transfer s).2.2 = transfer.stateAfter s := by
  unfold drive Action.stateAfter
  rw [uncanceled]
  rcases transfer.on s with ⟨(e | _) | _, after⟩
  · cases e <;> rfl
  · cases core.deadline <;> rfl
  · rfl

/-- A transfer leads to a result, or it leaves its state as it was, or as its failures do. -/
theorem drive_leads {σ α : Type} {P R : σ → Prop} {Q : α → σ → Prop}
    {transfer : Action σ Interruption α} (core : AgentCore) (leads : transfer.Leads P Q R) {s : σ}
    (holds : P s) :
    match core.drive transfer s with
    | (.completed a, _, after) => Q a after
    | (_, _, after) => P after ∨ R after := by
  have led := leads s holds
  cases canceled : core.cancelRequested with
  | true =>
    simp only [drive, canceled, if_true]
    exact .inl holds
  | false =>
    simp only [drive, canceled, Bool.false_eq_true, if_false]
    rcases on : transfer.on s with ⟨(e | _) | a, after⟩ <;> rw [on] at led
    · cases e <;> exact .inr led
    · cases core.deadline <;> exact .inr led
    · exact led

/-- What a transfer keeps is kept whether or not it was called off before. -/
theorem drive_keeps {σ α : Type} {P : σ → Prop} {transfer : Action σ Interruption α} (core : AgentCore)
    (keeps : transfer.Keeps P) {s : σ} (holds : P s) : P (core.drive transfer s).2.2 := by
  have led := core.drive_leads keeps.leads holds
  split at led
  · rename_i driven
    rwa [driven]
  · rename_i driven
    rw [driven]
    exact or_self_iff.1 led

end AgentCore

end DataSync
