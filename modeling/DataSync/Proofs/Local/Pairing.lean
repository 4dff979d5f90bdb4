import DataSync.Proofs.Local.ShoutingChild
import DataSync.Proofs.Transport.Core

/-!
# Which message an answer is to

A local agent is handed one message after the other.  An answer that it does not wait for is not
forgotten: it stays in the pipe, and the next one that is waited for is that answer.  So the answers
that are waited for belong to the first messages, and to the messages of their own turns only as long
as all answers are waited for.
-/

namespace DataSync.Local

open DataSync.Action

/-- A message that is handed over and waited for. -/
structure Turn where
  message : Message
  /-- Whether no answer is wanted. -/
  noReply : Bool := false
deriving DecidableEq

variable {π : Type} [Machine π]

/-- Hand over a message and wait. -/
def Turn.take (turn : Turn) (agent : LocalAgent π) : TransportStatus × LocalAgent π :=
  Agent.wait turn.noReply ((Agent.send turn.message.data).stateAfter
    (Agent.setContentType turn.message.contentType agent))

/-- The agent after turns, the latest of which comes last. -/
def LocalAgent.after (turns : List Turn) (agent : LocalAgent π) : LocalAgent π :=
  turns.foldl (fun agent turn => (turn.take agent).2) agent

/-- An agent whose child was not started yet. -/
structure LocalAgent.Fresh (agent : LocalAgent π) : Prop where
  inactive : agent.core.status = .inactive
  pipe : agent.link.pipe = none
  started : agent.link.started = false

/-! ## Single turns -/

namespace Turn

variable {agent : LocalAgent π} {turn : Turn}

/-- The core with the message of a turn under way. -/
def sending (turn : Turn) (core : AgentCore) : AgentCore :=
  AgentCore.sending { core with contentType := turn.message.contentType }

/-- An agent whose child is gone refuses messages. -/
theorem take_of_gone (gone : agent.isChildGone = true) (settled : agent.core.status.canSend = true) :
    turn.take agent =
      (agent.core.status, Agent.setContentType turn.message.contentType agent) := by
  have inactive : agent.core.status ≠ .active := by
    rintro active
    simp [active, TransportStatus.canSend] at settled
  have refused : (Agent.send turn.message.data).on
      (Agent.setContentType turn.message.contentType agent) =
        (.error (.childFailed "local sync child is gone"),
          Agent.setContentType turn.message.contentType agent) := by
    have still : (Agent.setContentType turn.message.contentType agent).isChildGone = true := gone
    simp only [Agent.send, on_of]
    simp only [Agent.setContentType] at still ⊢
    simp [settled, still]
  unfold take Action.stateAfter
  rw [refused]
  simp only [Agent.wait, Agent.setContentType]
  simp [inactive]

/-- A message that is taken is passed to the child.  A child that did not do its part is killed. -/
theorem take_of_not_gone (present : agent.isChildGone = false)
    (settled : agent.core.status.canSend = true) :
    turn.take agent =
      match (turn.sending agent.core).drive (Link.exchange agent.start turn.message turn.noReply)
        agent.link with
      | (outcome, time, link) =>
        let core := ((turn.sending agent.core).elapse time).finish outcome
        (core.status, { agent with
          core, link := if outcome.isCompleted then link else link.kill, pending := none }) := by
  have begun : ({ agent.core with contentType := turn.message.contentType } : AgentCore).beginSend
      false = .ok (turn.sending agent.core) :=
    AgentCore.beginSend_eq_ok.2 ⟨settled, rfl, rfl⟩
  have sent : (Agent.send turn.message.data).on
      (Agent.setContentType turn.message.contentType agent) =
        (.ok (), { agent with core := turn.sending agent.core, pending := some turn.message }) := by
    have still : (Agent.setContentType turn.message.contentType agent).isChildGone = false := present
    simp only [Agent.send, on_of]
    simp only [Agent.setContentType] at still ⊢
    simp [still, begun, sending, AgentCore.sending]
  unfold take Action.stateAfter
  rw [sent]
  rfl

end Turn

/-! ## All turns -/

theorem Available.isChildGone_eq_false {origin : π} {messages replies : List Message}
    {agent : LocalAgent π} (available : Available origin messages replies agent.link) :
    agent.isChildGone = false := by
  unfold LocalAgent.isChildGone
  cases available with
  | fresh _ _ started => simp [started]
  | conversing conversing =>
    obtain ⟨inbox, pipe⟩ := Option.isSome_iff_exists.1 conversing.isSome_pipe
    simp [pipe]

/-- Where an agent stands after turns: its child was told the messages of all of them and replied to
those that waited for an answer, or the child is gone for good. -/
inductive Standing (origin : π) (turns : List Turn) (agent : LocalAgent π) : Prop where
  | present {replies : List Message} :
      Available origin (turns.map (·.message)) replies agent.link →
      replies.length + turns.countP (·.noReply) = turns.length →
      agent.core.status.canSend = true → Standing origin turns agent
  | gone :
      agent.isChildGone = true → agent.core.status.canSend = true →
      agent.core.status ≠ .gotReply → Standing origin turns agent

namespace Standing

variable {origin : π} {answer : Message → Message} {turns : List Turn} {agent : LocalAgent π}

theorem of_fresh (fresh : agent.Fresh) : Standing agent.link.machine [] agent :=
  .present (.fresh rfl fresh.pipe fresh.started) rfl (by rw [fresh.inactive]; rfl)

/-- A turn that is answered is the last one of a conversation. -/
theorem take (standing : Standing origin turns agent) (answers : AnswersInOrder origin answer)
    (turn : Turn) :
    Standing origin (turns ++ [turn]) (turn.take agent).2 ∧
      ((turn.take agent).1 = .gotReply → ∃ replies reply,
        Conversing origin ((turns ++ [turn]).map (·.message)) (replies ++ [reply])
          (turn.take agent).2.link ∧
        replies.length + turns.countP (·.noReply) = turns.length ∧
        Agent.reply (turn.take agent).2 = .ok reply) := by
  cases standing with
  | gone gone settled unanswered =>
    rw [Turn.take_of_gone gone settled]
    exact ⟨.gone gone settled unanswered, fun answered => absurd answered unanswered⟩
  | @present replies available counted settled =>
    rw [Turn.take_of_not_gone available.isChildGone_eq_false settled]
    rcases driven : (turn.sending agent.core).drive
      (Link.exchange agent.start turn.message turn.noReply) agent.link with ⟨outcome, time, link⟩
    have started : link.started = true := by
      have uncanceled : (turn.sending agent.core).cancelRequested = false := rfl
      have state := AgentCore.drive_state uncanceled
        (Link.exchange agent.start turn.message turn.noReply) agent.link
      rw [driven] at state
      rw [show link = _ from state]
      exact available.started_exchange agent.start turn.message turn.noReply
    cases outcome with
    | completed reply? =>
      obtain ⟨conversing, wanted⟩ := available.exchange answers (AgentCore.drive_eq_completed driven)
      rw [← List.map_singleton (f := Turn.message), ← List.map_append] at conversing
      refine ⟨.present (.conversing conversing) ?_ (by simp), fun answered => ?_⟩
      · cases reply? <;> simp_all <;> omega
      · cases reply? with
        | none => simp [Outcome.status] at answered
        | some reply => exact ⟨replies, reply, conversing, counted, rfl⟩
    -- After any other end the child is killed, and no second one is ever started.
    | _ =>
      refine ⟨.gone ?_ (by simp) (by simp [Outcome.status]), fun answered => ?_⟩
      · cases pipe : link.pipe <;>
          simp [LocalAgent.isChildGone, Link.kill, pipe, started, Outcome.isCompleted]
      · simp [Outcome.status] at answered

theorem after (standing : Standing origin turns agent) (answers : AnswersInOrder origin answer)
    (later : List Turn) : Standing origin (turns ++ later) (agent.after later) := by
  induction later generalizing turns agent with
  | nil => rwa [List.append_nil]
  | cons turn later inductionHypothesis =>
    have next := inductionHypothesis (standing.take answers turn).1
    rwa [List.append_assoc] at next

end Standing

/-- The answer that a turn gets is the child's answer to the message whose place among all is that of
the turn, less the earlier turns that did not wait for their answers.  So each turn gets its own
answer exactly until one does not wait. -/
theorem answered_message {agent : LocalAgent π} {answer : Message → Message} (fresh : agent.Fresh)
    (answers : AnswersInOrder agent.link.machine answer) (before : List Turn) (turn : Turn)
    (answered : (turn.take (agent.after before)).1 = .gotReply) :
    (∃ (position : Nat) (asked : Turn),
      position + before.countP (·.noReply) = before.length ∧
      (before ++ [turn])[position]? = some asked ∧
      Agent.reply (turn.take (agent.after before)).2 = .ok (answer asked.message)) ∧
    ((∀ earlier ∈ before, earlier.noReply = false) →
      Agent.reply (turn.take (agent.after before)).2 = .ok (answer turn.message)) := by
  have standing : Standing agent.link.machine before (agent.after before) :=
    (Standing.of_fresh fresh).after answers before
  -- The replies that were read are the first answers, so this one has their number as its place.
  obtain ⟨replies, reply, conversing, counted, replied⟩ := (standing.take answers turn).2 answered
  have place : ((before ++ [turn]).map (·.message) |>.map answer)[replies.length]? = some reply := by
    obtain ⟨rest, whole⟩ := conversing.replies_prefix answers
    rw [← whole]
    simp
  rw [List.map_map, List.getElem?_map, Option.map_eq_some_iff] at place
  obtain ⟨asked, found, rfl⟩ := place
  refine ⟨⟨replies.length, asked, counted, found, replied⟩, fun waited => ?_⟩
  have none : before.countP (·.noReply) = 0 := by simpa using waited
  rw [show replies.length = before.length by omega, List.getElem?_concat_length] at found
  cases found
  exact replied

/-- An agent whose child shouts every message back. -/
def LocalAgent.shouting : LocalAgent ProgramMachine :=
  { link := { machine := { child := .shouting } } }

theorem LocalAgent.fresh_shouting : LocalAgent.shouting.Fresh :=
  ⟨rfl, rfl, rfl⟩

/-- A message of one octet in a turn that does not wait for the answer, and in one that does. -/
def Turn.skipped (octet : UInt8) : Turn :=
  { message := ⟨[octet], ContentType.xml⟩, noReply := true }

def Turn.waited (octet : UInt8) : Turn :=
  { message := ⟨[octet], ContentType.xml⟩ }

theorem answered_message_of_shouting :
    LocalAgent.shouting.Fresh ∧
    AnswersInOrder LocalAgent.shouting.link.machine ChildProgram.shouted ∧
    ((Turn.waited 99).take (LocalAgent.shouting.after [.waited 97, .skipped 98])).1 = .gotReply ∧
    (∃ (position : Nat) (asked : Turn),
      position + [Turn.waited 97, .skipped 98].countP (·.noReply) = 2 ∧
      [Turn.waited 97, .skipped 98, .waited 99][position]? = some asked ∧
      Agent.reply
        ((Turn.waited 99).take (LocalAgent.shouting.after [.waited 97, .skipped 98])).2 =
          .ok (ChildProgram.shouted asked.message)) ∧
    ((Turn.waited 98).take (LocalAgent.shouting.after [.waited 97])).1 = .gotReply ∧
    (∀ earlier ∈ [Turn.waited 97], earlier.noReply = false) ∧
    Agent.reply ((Turn.waited 98).take (LocalAgent.shouting.after [.waited 97])).2 =
      .ok (ChildProgram.shouted (Turn.waited 98).message) :=
  have answers := ProgramMachine.answersInOrder_shouting {}
  have answered :
      ((Turn.waited 99).take (LocalAgent.shouting.after [.waited 97, .skipped 98])).1 = .gotReply := by
    decide +kernel
  have answered' :
      ((Turn.waited 98).take (LocalAgent.shouting.after [.waited 97])).1 = .gotReply := by
    decide +kernel
  have waited : ∀ earlier ∈ [Turn.waited 97], earlier.noReply = false := by decide
  ⟨LocalAgent.fresh_shouting, answers, answered,
    (answered_message LocalAgent.fresh_shouting answers _ _ answered).1, answered', waited,
    (answered_message LocalAgent.fresh_shouting answers _ _ answered').2 waited⟩

/-- After an answer that nobody waited for, the next one that is waited for is that answer. -/
theorem answer_to_skipped_message :
    AnswersInOrder LocalAgent.shouting.link.machine ChildProgram.shouted ∧
    ((Turn.waited 98).take (LocalAgent.shouting.after [.skipped 97])).1 = .gotReply ∧
    Agent.reply ((Turn.waited 98).take (LocalAgent.shouting.after [.skipped 97])).2 =
      .ok (ChildProgram.shouted (Turn.skipped 97).message) ∧
    ChildProgram.shouted (Turn.skipped 97).message ≠
      ChildProgram.shouted (Turn.waited 98).message :=
  ⟨ProgramMachine.answersInOrder_shouting {}, by decide +kernel, by decide +kernel, by decide⟩

end DataSync.Local
