import DataSync.Proofs.Local.Conversation
import DataSync.Rehearsal.ChildProgram

/-!
# A child that answers in order

A child program that is ready, lets itself be started and then answers every message with itself in
upper case keeps the rules of conversations: whatever it is told, its replies come in the order of the
messages.
-/

namespace DataSync

open DataSync.Action
open Local (ParentMessage ChildMessage Frame.encode Frame.encodeAll)

namespace ChildProgram

/-- The answer to a message that is shouted back. -/
def shouted (message : Message) : Message :=
  { message with data := message.data.map upper }

/-- The child that shouts every message back. -/
def shouting : ChildProgram :=
  .ofSteps [.ready, .start, .shout]

variable {child : ChildProgram} {octets : Bytes}

/-! ## Steps -/

theorem on_hear {message : ParentMessage} (encoded : Frame.encode message = .ok octets)
    (peer : Recorder) :
    Local.Child.hear.on { peer, inbox := { unread := octets } } =
      (.ok (some message), { peer, inbox := {} }) := by
  have received := Local.Frame.on_receive encoded [] false
  rw [List.append_nil] at received
  simp [Local.Child.hear, Wire.reading, on_within, received]

theorem on_hear_silence (peer : Recorder) :
    Local.Child.hear.on { peer } = (.error .stalled, { peer }) := rfl

/-- A child that has to listen first waits for the next message. -/
theorem run_silence {patience : Nat} {rest : List ChildStep} (silent : child.inbox = {})
    (steps : child.steps = .start :: rest ∨ child.steps = .shout :: rest) :
    run (patience + 1) child = ([], child) := by
  rcases steps with steps | steps <;>
    simp [run, steps, silent, take, Local.Child.start, Local.Child.nextMessage, on_bind,
      on_hear_silence]

/-- A child that has to say first that it is ready does so. -/
theorem run_ready {patience : Nat} {frame : Bytes}
    (greeting : Frame.encode ChildMessage.ready = .ok frame) :
    run (patience + 2) shouting = (frame, { shouting with steps := [.start, .shout] }) := by
  have taken : (take shouting .ready).on { peer := {}, inbox := {} } =
      (.ok ([], shouting), { peer := { received := frame } }) := by
    simp [take, Local.Child.ready, Local.Frame.send, Wire.send, Peer.react, Inbox.receive,
      on_map, Except.map, greeting]
  rw [run]
  simp only [show shouting.steps = [.ready, .start, .shout] from rfl,
    show shouting.inbox = {} from rfl, taken]
  rw [run_silence rfl (.inl rfl)]
  simp [shouting, ofSteps]

/-- What becomes of a child that was told something before it was started. -/
theorem run_start {patience : Nat} {message : ParentMessage}
    (encoded : Frame.encode message = .ok octets) (steps : child.steps = [.start, .shout]) :
    run (patience + 2) { child with inbox := { unread := octets } } =
      match message with
      | .startSync start => ([], { child with start, steps := [.shout], inbox := {} })
      | _ => ([], { child with inbox := { unread := octets }, exit := some 1 }) := by
  have heard := on_hear encoded {}
  rw [run]
  cases message with
  | startSync start =>
    simp only [steps]
    simp [take, Local.Child.start, on_bind, heard, run_silence]
  | _ =>
    simp only [steps]
    simp [take, Local.Child.start, Local.Child.unexpected, Local.disorder, on_bind, heard]

/-- What a child that shouts says to a message. -/
theorem run_shout {patience : Nat} {message : ParentMessage}
    (encoded : Frame.encode message = .ok octets) (steps : child.steps = [.shout]) :
    run (patience + 2) { child with inbox := { unread := octets } } =
      match message with
      | .message m =>
        match Frame.encode (ChildMessage.reply (shouted m)) with
        | .ok frame => (frame, { child with inbox := {} })
        | .error _ => ([], { child with inbox := { unread := octets }, exit := some 1 })
      | _ => ([], { child with inbox := { unread := octets }, exit := some 1 }) := by
  have heard := on_hear encoded {}
  rw [run]
  cases message with
  | message m =>
    simp only [steps, shouted]
    cases replied : Frame.encode (ChildMessage.reply { m with data := m.data.map upper }) with
    | ok frame =>
      simp [take, Local.Child.nextMessage, Local.Child.reply, Local.Frame.send, Wire.send,
        Peer.react, Inbox.receive, on_bind, on_map, Except.map, heard, replied, run_silence]
    | error e =>
      simp [take, Local.Child.nextMessage, Local.Child.reply, Local.Frame.send, on_bind, heard,
        replied]
  | _ =>
    simp only [steps]
    simp [take, Local.Child.nextMessage, Local.Child.unexpected, Local.disorder, on_bind, heard]

end ChildProgram

namespace ProgramMachine

open ChildProgram (shouted shouting)

/-- A child that shouts has answered all messages that it was told, or it has ended. -/
structure Shouted (told : List ParentMessage) (sent : Bytes) (machine : ProgramMachine) : Prop where
  answers : ∃ said, Frame.encodeAll said = .ok sent ∧
    said.filterMap ChildMessage.reply? <+: (told.filterMap ParentMessage.protocol?).map shouted ∧
    (machine.child.exit = none →
      said.filterMap ChildMessage.reply? = (told.filterMap ParentMessage.protocol?).map shouted)
  waiting : machine.child.exit = none → machine.child.inbox = {} ∧
    (machine.child.steps = [.start, .shout] ∨ machine.child.steps = [.shout])

theorem shouted_spawned {first : Reaction} {machine : ProgramMachine} {observer : Observer}
    (spawned : Local.Machine.spawn.on ({ child := shouting, observer } : ProgramMachine) =
      (.ok first, machine)) : Shouted [] first.sent machine := by
  obtain ⟨frame, greeting⟩ : ∃ frame, Frame.encode ChildMessage.ready = .ok frame :=
    ⟨_, Local.Frame.encode_eq_ok.2 ⟨by decide, rfl⟩⟩
  have ready : shouting.receive [] false =
      ({ sent := frame }, { shouting with steps := [.start, .shout] }) := by
    have inbox : shouting.inbox.receive [] false = shouting.inbox := rfl
    have patience : shouting.steps.length + shouting.inbox.unread.length + 2 = 3 + 2 := rfl
    simp only [ChildProgram.receive, inbox, patience, ChildProgram.run_ready greeting]
    rfl
  simp only [Local.Machine.spawn, reach, on_of, ready] at spawned
  cases spawned
  refine ⟨⟨[.ready], ?_, List.prefix_rfl, fun _ => rfl⟩, fun _ => ⟨rfl, .inl rfl⟩⟩
  exact Local.Frame.encodeAll_cons_eq_ok.2 ⟨frame, [], greeting, rfl, by simp⟩

/-- A message reaches a child that runs, which goes on until it waits again. -/
theorem run_of_react {octets : Bytes} {machine after : ProgramMachine} {reaction : Reaction}
    (silent : machine.child.exit = none → machine.child.inbox = {})
    (reacted : (Peer.react octets).on machine = (.ok reaction, after)) :
    machine.child.exit = none ∧ ∃ patience,
      ChildProgram.run (patience + 2) { machine.child with inbox := { unread := octets } } =
        (reaction.sent, after.child) := by
  simp only [Peer.react, reach, on_of] at reacted
  split at reacted
  · cases reacted
  · rename_i running
    simp only [Bool.or_eq_true, not_or, Bool.not_eq_true, Option.isSome_eq_false_iff,
      Option.isNone_iff_eq_none] at running
    have inbox : machine.child.inbox.receive octets false = { unread := octets } := by
      rw [silent running.2]
      rfl
    rw [ChildProgram.receive, inbox] at reacted
    cases reacted
    exact ⟨running.2, _, rfl⟩

namespace Shouted

variable {told : List ParentMessage} {sent octets : Bytes} {machine after : ProgramMachine}
  {message : ParentMessage}

/-- A child that ended owes its answers for ever. -/
theorem ended (shouted : Shouted told sent machine) {code : Int}
    (ended : after.child.exit = some code) : Shouted (told ++ [message]) sent after := by
  obtain ⟨said, encoded, inOrder, -⟩ := shouted.answers
  refine ⟨⟨said, encoded, inOrder.trans ?_, fun running => ?_⟩, fun running => ?_⟩
  · rw [List.filterMap_append, List.map_append]
    exact List.prefix_append _ _
  · rw [ended] at running
    cases running
  · rw [ended] at running
    cases running

theorem answer {said : List ChildMessage} {frame : Bytes} {reply : ChildMessage}
    (encodedSaid : Frame.encodeAll said = .ok sent) (encoded : Frame.encode reply = .ok frame)
    (all : (said ++ [reply]).filterMap ChildMessage.reply? =
      ((told ++ [message]).filterMap ParentMessage.protocol?).map shouted)
    (silent : after.child.inbox = {}) (steps : after.child.steps = [.shout]) :
    Shouted (told ++ [message]) (sent ++ frame) after :=
  ⟨⟨said ++ [reply], Local.Frame.encodeAll_concat encodedSaid encoded,
      all ▸ List.prefix_rfl, fun _ => all⟩,
    fun _ => ⟨silent, .inr steps⟩⟩

theorem react {reaction : Reaction} (shouted : Shouted told sent machine)
    (encoded : Frame.encode message = .ok octets)
    (reacted : (Peer.react octets).on machine = (.ok reaction, after)) :
    Shouted (told ++ [message]) (sent ++ reaction.sent) after := by
  obtain ⟨running, patience, ran⟩ := run_of_react (fun running => (shouted.waiting running).1) reacted
  obtain ⟨said, encodedSaid, -, all⟩ := shouted.answers
  specialize all running
  -- A message of the wrong kind ends the child in either step.
  rcases (shouted.waiting running).2 with steps | steps
  · rw [ChildProgram.run_start encoded steps] at ran
    cases message with
    | startSync start =>
      obtain ⟨silent, child⟩ := Prod.mk.inj ran
      have owed : said.filterMap ChildMessage.reply? =
          ((told ++ [ParentMessage.startSync start]).filterMap ParentMessage.protocol?).map
            ChildProgram.shouted := by
        rw [all]
        simp [ParentMessage.protocol?]
      rw [← silent, List.append_nil]
      exact ⟨⟨said, encodedSaid, owed ▸ List.prefix_rfl, fun _ => owed⟩,
        fun _ => by rw [← child]; exact ⟨rfl, .inr rfl⟩⟩
    | _ =>
      obtain ⟨silent, child⟩ := Prod.mk.inj ran
      rw [← silent, List.append_nil]
      exact shouted.ended (by rw [← child])
  · rw [ChildProgram.run_shout encoded steps] at ran
    cases message with
    | message m =>
      dsimp only at ran
      split at ran
      · rename_i frame replied
        obtain ⟨rfl, child⟩ := Prod.mk.inj ran
        exact answer encodedSaid replied
          (by simp [ChildMessage.reply?, ParentMessage.protocol?, all]) (by rw [← child])
          (by rw [← child]; exact steps)
      · obtain ⟨silent, child⟩ := Prod.mk.inj ran
        rw [← silent, List.append_nil]
        exact shouted.ended (by rw [← child])
    | _ =>
      obtain ⟨silent, child⟩ := Prod.mk.inj ran
      rw [← silent, List.append_nil]
      exact shouted.ended (by rw [← child])

end Shouted

theorem answersInOrder_shouting (observer : Observer) :
    Local.AnswersInOrder ({ child := shouting, observer } : ProgramMachine) shouted := by
  intro told sent machine course
  have kept : Shouted told sent machine := by
    -- Questions go to the person at the machine and not to the child.
    induction course with
    | spawned spawned => exact shouted_spawned spawned
    | told _ encoded reacted inductionHypothesis => exact inductionHypothesis.react encoded reacted
    | asked name description key _ inductionHypothesis =>
      exact ⟨inductionHypothesis.answers, inductionHypothesis.waiting⟩
    | saved name password key _ inductionHypothesis =>
      exact ⟨inductionHypothesis.answers, inductionHypothesis.waiting⟩
  obtain ⟨said, encoded, inOrder, -⟩ := kept.answers
  exact ⟨said, sent, encoded, List.prefix_rfl, inOrder⟩

end ProgramMachine

end DataSync
