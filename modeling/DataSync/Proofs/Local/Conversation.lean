import DataSync.Local.Agent
import DataSync.Proofs.Keeps
import DataSync.Proofs.Local.FrameStream

/-!
# Conversations with a child

Parent and child tell each other messages without numbers, over two streams.  What belongs together
follows from the order alone: a child that answers in order sends one reply for each protocol message,
and the parent has to read all of them.
-/

namespace DataSync.Local

open DataSync.Action

/-- The protocol message in a message to the child. -/
def ParentMessage.protocol? : ParentMessage → Option Message
  | message m => some m
  | _ => none

/-- Whether a message is of those that follow the start of a synchronization. -/
def ParentMessage.followsStart : ParentMessage → Bool
  | startSync _ => false
  | message _ | passwordResponse _ | savePasswordResponse _ => true

/-- The answer in a message from the child. -/
def ChildMessage.reply? : ChildMessage → Option Message
  | reply m => some m
  | _ => none

variable {π : Type} [Machine π]

/-- A course of the child that is started on a machine: what it was told, what it sent, and the machine
after that.  A question to the person at the machine may change the machine, too. -/
inductive Course (origin : π) : List ParentMessage → Bytes → π → Prop where
  | spawned {first : Reaction} {machine : π} :
      (Machine.spawn (π := π)).on origin = (.ok first, machine) →
      Course origin [] first.sent machine
  | told {told : List ParentMessage} {sent octets : Bytes} {machine after : π}
      {message : ParentMessage} {reaction : Reaction} :
      Course origin told sent machine → Frame.encode message = .ok octets →
      (Peer.react octets).on machine = (.ok reaction, after) →
      Course origin (told ++ [message]) (sent ++ reaction.sent) after
  | asked {told : List ParentMessage} {sent : Bytes} {machine : π}
      (name description : String) (key : PasswordKey) :
      Course origin told sent machine →
      Course origin told sent (UserInterface.askPassword name description key machine).2
  | saved {told : List ParentMessage} {sent : Bytes} {machine : π}
      (name password : String) (key : PasswordKey) :
      Course origin told sent machine →
      Course origin told sent (UserInterface.savePassword name password key machine).2

/-- The child that is started on a machine sends nothing but messages, and among them one reply for
each protocol message that it was told, in their order and computed from it.  A reply may be late. -/
def AnswersInOrder (origin : π) (answer : Message → Message) : Prop :=
  ∀ ⦃told : List ParentMessage⦄ ⦃sent : Bytes⦄ ⦃machine : π⦄, Course origin told sent machine →
    ∃ said octets, Frame.encodeAll said = .ok octets ∧ sent <+: octets ∧
      said.filterMap ChildMessage.reply? <+: (told.filterMap ParentMessage.protocol?).map answer

/-- The parent told a running child some protocol messages, and has read some replies. -/
structure Conversing (origin : π) (messages replies : List Message) (link : Link π) : Prop where
  started : link.started = true
  course : ∃ told heard inbox octets, link.pipe = some inbox ∧
    Course origin told (octets ++ inbox.unread) link.machine ∧
    Frame.encodeAll heard = .ok octets ∧
    told.filterMap ParentMessage.protocol? = messages ∧
    heard.filterMap ChildMessage.reply? = replies

namespace Conversing

variable {origin : π} {answer : Message → Message} {messages replies : List Message}
  {link after : Link π}

theorem isSome_pipe (conversing : Conversing origin messages replies link) :
    link.pipe.isSome = true := by
  obtain ⟨_, _, _, _, pipe, -⟩ := conversing.course
  rw [pipe]
  rfl

/-- The replies that were read are answers to the first messages. -/
theorem replies_prefix (conversing : Conversing origin messages replies link)
    (answers : AnswersInOrder origin answer) : replies <+: messages.map answer := by
  obtain ⟨told, heard, inbox, octets, -, course, encodedHeard, rfl, rfl⟩ := conversing.course
  -- What was heard is the front of what the child said, so its replies come first.
  obtain ⟨said, stream, encodedSaid, within, inOrder⟩ := answers course
  obtain ⟨rest, -, rfl, -⟩ := Frame.rest_of_within encodedHeard encodedSaid within
  rw [List.filterMap_append] at inOrder
  exact (List.prefix_append _ _).trans inOrder

/-! ## Single messages -/

theorem tell {message : ParentMessage} (conversing : Conversing origin messages replies link)
    (done : (Link.tell message).on link = (.ok (), after)) :
    Conversing origin (messages ++ [message].filterMap ParentMessage.protocol?) replies after := by
  obtain ⟨told, heard, inbox, octets, pipe, course, encodedHeard, rfl, rfl⟩ := conversing.course
  rcases encoded : Frame.encode message with e | frame
  · simp [Link.tell, Link.onWire, Frame.send, encoded] at done
  · rcases reacted : (Peer.react frame).on link.machine with ⟨e | reaction, machine⟩
    · simp [Link.tell, Link.onWire, Frame.send, Wire.send, encoded, reacted] at done
    · simp only [Link.tell, Link.onWire, Frame.send, Wire.send, encoded, reacted, pipe, on_of,
        Option.getD_some, Option.map_some] at done
      cases done
      -- What the child sends in answer waits in the inbox behind what was not read yet.
      have grown := course.told encoded reacted
      rw [List.append_assoc] at grown
      exact ⟨conversing.started, told ++ [message], heard, _, octets, rfl, grown, encodedHeard,
        List.filterMap_append .., rfl⟩

theorem tell_other {message : ParentMessage} (conversing : Conversing origin messages replies link)
    (other : message.protocol? = none) (done : (Link.tell message).on link = (.ok (), after)) :
    Conversing origin messages replies after := by
  simpa [other] using conversing.tell done

/-- What is read from a child that answers in order is its next message. -/
theorem hear {got : ChildMessage} (conversing : Conversing origin messages replies link)
    (answers : AnswersInOrder origin answer) (done : Link.hear.on link = (.ok (some got), after)) :
    Conversing origin messages (replies ++ [got].filterMap ChildMessage.reply?) after := by
  obtain ⟨told, heard, inbox, octets, pipe, course, encodedHeard, rfl, rfl⟩ := conversing.course
  obtain ⟨said, stream, encodedSaid, within, -⟩ := answers course
  obtain ⟨coming, others, -, encodedComing, left⟩ :=
    Frame.rest_of_within encodedHeard encodedSaid within
  rcases received : (Frame.receive (μ := ChildMessage)).on inbox with ⟨result, rest⟩
  simp only [Link.hear, Link.onWire, Wire.reading, on_of, on_within, pipe, Option.getD_some, received,
    Option.map_some] at done
  cases done
  -- The octets that were read move from the inbox to those of the messages that were heard.
  obtain ⟨-, frame, -, encodedFrame, unread⟩ := Frame.receive_of_within encodedComing left received
  rw [unread, ← List.append_assoc] at course
  exact ⟨conversing.started, told, heard ++ [got], rest, octets ++ frame, rfl, course,
    Frame.encodeAll_concat encodedHeard encodedFrame, rfl, List.filterMap_append ..⟩

theorem hear_other {got : ChildMessage} (conversing : Conversing origin messages replies link)
    (answers : AnswersInOrder origin answer) (other : got.reply? = none)
    (done : Link.hear.on link = (.ok (some got), after)) :
    Conversing origin messages replies after := by
  simpa [other] using conversing.hear answers done

theorem askPassword {name description : String} {key : PasswordKey} {password : Option String}
    (conversing : Conversing origin messages replies link)
    (done : (Link.ask (UserInterface.askPassword name description key)).on link =
      (.ok password, after)) : Conversing origin messages replies after := by
  obtain ⟨told, heard, inbox, octets, pipe, course, rest⟩ := conversing.course
  cases done
  exact ⟨conversing.started, told, heard, inbox, octets, pipe,
    course.asked name description key, rest⟩

theorem savePassword {name password : String} {key : PasswordKey} {saved : Bool}
    (conversing : Conversing origin messages replies link)
    (done : (Link.ask (UserInterface.savePassword name password key)).on link =
      (.ok saved, after)) : Conversing origin messages replies after := by
  obtain ⟨told, heard, inbox, octets, pipe, course, rest⟩ := conversing.course
  cases done
  exact ⟨conversing.started, told, heard, inbox, octets, pipe, course.saved name password key, rest⟩

theorem report (conversing : Conversing origin messages replies link) (report : Option ChildReport) :
    Conversing origin messages replies { link with report } :=
  ⟨conversing.started, conversing.course⟩

/-! ## Exchanges -/

theorem gone_ne_ok {α : Type} (result : α) : (Link.gone (α := α)).on link ≠ (.ok result, after) := by
  intro done
  obtain ⟨_, _, -, rest⟩ := on_bind_eq_ok.1 done
  split at rest
  · simp at rest
  · obtain ⟨_, _, -, last⟩ := on_bind_eq_ok.1 rest
    simp at last

/-- Listening ends with one more reply. -/
theorem listen {patience : Nat} {reply : Message} (conversing : Conversing origin messages replies link)
    (answers : AnswersInOrder origin answer)
    (done : (Link.listen patience).on link = (.ok reply, after)) :
    Conversing origin messages (replies ++ [reply]) after := by
  -- Whatever is heard before the reply leaves both the messages and the replies alone.
  induction patience generalizing link with
  | zero => simp [Link.listen] at done
  | succ patience inductionHypothesis =>
    obtain ⟨got, between, heard, rest⟩ := on_bind_eq_ok.1 done
    cases got with
    | none => exact absurd rest (gone_ne_ok reply)
    | some got =>
      cases got with
      | ready => simp at rest
      | reply message =>
        cases rest
        exact conversing.hear answers heard
      | askPassword name description key =>
        have next := conversing.hear_other answers rfl heard
        obtain ⟨password, asked, askedDone, later⟩ := on_bind_eq_ok.1 rest
        obtain ⟨_, told, toldDone, last⟩ := on_bind_eq_ok.1 later
        exact inductionHypothesis ((next.askPassword askedDone).tell_other rfl toldDone) last
      | savePassword name password key =>
        have next := conversing.hear_other answers rfl heard
        obtain ⟨saved, asked, askedDone, later⟩ := on_bind_eq_ok.1 rest
        obtain ⟨_, told, toldDone, last⟩ := on_bind_eq_ok.1 later
        exact inductionHypothesis ((next.savePassword askedDone).tell_other rfl toldDone) last
      | report report =>
        have next := conversing.hear_other answers rfl heard
        obtain ⟨_, noted, notedDone, last⟩ := on_bind_eq_ok.1 rest
        cases notedDone
        exact inductionHypothesis (next.report (some report)) last

theorem greet {start : StartSync} (conversing : Conversing origin messages replies link)
    (answers : AnswersInOrder origin answer)
    (done : (Link.greet start).on link = (.ok (), after)) :
    Conversing origin messages replies after := by
  obtain ⟨got, between, heard, rest⟩ := on_bind_eq_ok.1 done
  cases got with
  | none =>
    obtain ⟨_, _, -, last⟩ := on_bind_eq_ok.1 rest
    simp at last
  | some got =>
    cases got with
    | ready => exact (conversing.hear_other answers rfl heard).tell_other rfl rest
    | _ =>
      obtain ⟨_, _, -, last⟩ := on_bind_eq_ok.1 rest
      simp at last

/-- A child that was just started was told no protocol message. -/
theorem begin {start : StartSync} (answers : AnswersInOrder origin answer)
    (fresh : link.machine = origin) (done : (Link.begin start).on link = (.ok (), after)) :
    Conversing origin [] [] after := by
  obtain ⟨_, started, startedDone, rest⟩ := on_bind_eq_ok.1 done
  cases startedDone
  obtain ⟨first, spawned, spawnedDone, rest⟩ := on_bind_eq_ok.1 rest
  obtain ⟨_, opened, openedDone, rest⟩ := on_bind_eq_ok.1 rest
  cases openedDone
  rcases spawnedMachine : (Machine.spawn (π := π)).on origin with ⟨result, machine⟩
  simp only [Link.onMachine, on_within, fresh, spawnedMachine, Prod.mk.injEq] at spawnedDone
  obtain ⟨rfl, rfl⟩ := spawnedDone
  -- All that the child has said so far waits in the new pipe.
  have attached : Conversing origin [] [] ({ link with
      machine, started := true, pipe := some (Inbox.receive first.sent first.ends {}) } : Link π) :=
    ⟨rfl, [], [], _, [], rfl, by simpa [Inbox.receive] using Course.spawned spawnedMachine, rfl, rfl,
      rfl⟩
  simp only [on_of] at rest
  split at rest
  · rename_i greeted
    cases rest
    exact attached.greet answers greeted
  · cases rest

end Conversing

/-- A child runs that takes messages, or it can be started still. -/
inductive Available (origin : π) : List Message → List Message → Link π → Prop where
  | fresh {link : Link π} :
      link.machine = origin → link.pipe = none → link.started = false → Available origin [] [] link
  | conversing {messages replies : List Message} {link : Link π} :
      Conversing origin messages replies link → Available origin messages replies link

variable {origin : π} {answer : Message → Message} {messages replies : List Message}
  {link after : Link π} {start : StartSync} {message : Message} {noReply : Bool}

/-- Pass a message to a child that runs, and wait for the answer if one is wanted. -/
def Link.pass (message : Message) (noReply : Bool) :
    Action (Link π) Interruption (Option Message) := do
  Link.tell (.message message)
  if noReply then return none
  else return some (← Link.listen (Link.patience (← get)))

/-- An exchange starts the child if it does not run, and passes the message to it. -/
theorem Link.on_exchange (start : StartSync) (message : Message) (noReply : Bool) (link : Link π) :
    (Link.exchange start message noReply).on link =
      ((if link.pipe.isNone then Link.begin start else pure ()) >>= fun _ =>
        Link.pass message noReply).on link := by
  rw [Link.exchange, on_bind, on_get]
  dsimp only
  split <;> rfl

/-- An exchange tells the child one more message, and reads one more reply unless none is wanted. -/
theorem Available.exchange {reply : Option Message} (available : Available origin messages replies link)
    (answers : AnswersInOrder origin answer)
    (done : (Link.exchange start message noReply).on link = (.ok reply, after)) :
    Conversing origin (messages ++ [message]) (replies ++ reply.toList) after ∧
      reply.isSome = !noReply := by
  rw [Link.on_exchange] at done
  obtain ⟨_, between, ready, passed⟩ := on_bind_eq_ok.1 done
  have conversing : Conversing origin messages replies between := by
    cases available with
    | fresh machine pipe _ =>
      rw [pipe] at ready
      exact .begin answers machine ready
    | conversing conversing =>
      obtain ⟨inbox, pipe⟩ := Option.isSome_iff_exists.1 conversing.isSome_pipe
      rw [pipe] at ready
      cases ready
      exact conversing
  obtain ⟨_, told, toldDone, rest⟩ := on_bind_eq_ok.1 passed
  have next := conversing.tell toldDone
  cases noReply with
  | true =>
    cases rest
    exact ⟨by simpa [ParentMessage.protocol?] using next, rfl⟩
  | false =>
    obtain ⟨_, _, got, rest⟩ := on_bind_eq_ok.1 rest
    cases got
    obtain ⟨reply, _, listened, rest⟩ := on_bind_eq_ok.1 rest
    cases rest
    exact ⟨by simpa [ParentMessage.protocol?] using next.listen answers listened, rfl⟩

/-! ## What talking to a child keeps -/

/-- A property of links that every step of talking to a child keeps. -/
structure Link.Talk (P : Link π → Prop) : Prop where
  hear : Keeps P Link.hear
  tell : ∀ {message : ParentMessage}, message.followsStart = true → Keeps P (Link.tell message)
  askPassword : ∀ name description key,
    Keeps P (Link.ask (UserInterface.askPassword name description key))
  savePassword : ∀ name password key,
    Keeps P (Link.ask (UserInterface.savePassword name password key))
  report : ∀ (link : Link π) (report : Option ChildReport), P link → P { link with report }
  reap : Keeps P (Link.onMachine Machine.reap)

namespace Link.Talk

variable {P : Link π → Prop}

theorem gone {α : Type} (talk : Talk P) : Keeps P (Link.gone (α := α)) :=
  keeps_get.bind fun link => by
    split
    · exact fun _ holds => holds
    · exact talk.reap.bind fun _ _ holds => holds

theorem listen (talk : Talk P) (patience : Nat) : Keeps P (Link.listen patience) := by
  induction patience with
  | zero => exact fun _ holds => holds
  | succ patience inductionHypothesis =>
    refine talk.hear.bind fun got => ?_
    cases got with
    | none => exact talk.gone
    | some got =>
      cases got with
      | ready => exact fun _ holds => holds
      | reply message => exact keeps_pure _
      | askPassword name description key =>
        refine (talk.askPassword name description key).bind fun _ => ?_
        exact (talk.tell rfl).bind fun _ => inductionHypothesis
      | savePassword name password key =>
        refine (talk.savePassword name password key).bind fun _ => ?_
        exact (talk.tell rfl).bind fun _ => inductionHypothesis
      | report report => exact (keeps_modify (talk.report · _)).bind fun _ => inductionHypothesis

theorem pass (talk : Talk P) (message : Message) (noReply : Bool) :
    Keeps P (Link.pass message noReply) := by
  refine (talk.tell rfl).bind fun _ => ?_
  cases noReply with
  | true => exact keeps_pure none
  | false => exact keeps_get.bind fun link => (talk.listen _).bind fun reply => keeps_pure (some reply)

end Link.Talk

/-! ## One child only -/

/-- That a child was started is not forgotten. -/
abbrev KeepsStarted {α : Type} (action : Action (Link π) Interruption α) : Prop :=
  action.Keeps fun link => link.started = true

namespace KeepsStarted

theorem talk : Link.Talk fun link : Link π => link.started = true where
  hear _ started := started
  tell _ _ started := started
  askPassword _ _ _ _ started := started
  savePassword _ _ _ _ started := started
  report _ _ started := started
  reap _ started := started

theorem greet (start : StartSync) : KeepsStarted (Link.greet (π := π) start) := by
  refine talk.hear.bind fun got => ?_
  cases got with
  | none => exact talk.reap.bind fun _ _ started => started
  | some got =>
    cases got with
    | ready => exact fun _ started => started
    | _ => exact Keeps.bind (fun _ started => started) fun _ _ started => started

/-- The child that is started counts as started, whatever comes of it. -/
theorem begin (start : StartSync) (link : Link π) :
    ((Link.begin start).stateAfter link).started = true := by
  refine Keeps.after_bind (P := fun link : Link π => link.started = true) rfl fun _ => ?_
  refine Keeps.bind (fun _ started => started) fun first => ?_
  refine Keeps.bind (fun _ started => started) fun _ link started => ?_
  have greeted := greet start link started
  -- A child that is not greeted properly is detached again, which does not undo its start.
  unfold stateAfter at greeted ⊢
  rw [on_of]
  split
  · rename_i result
    rwa [result] at greeted
  · rename_i result
    rwa [result] at greeted

end KeepsStarted

/-- After an exchange there was a child, whatever came of it. -/
theorem Available.started_exchange (available : Available origin messages replies link)
    (start : StartSync) (message : Message) (noReply : Bool) :
    ((Link.exchange start message noReply).stateAfter link).started = true := by
  have ready : (((if link.pipe.isNone then Link.begin start else pure ()) :
      Action (Link π) Interruption Unit).stateAfter link).started = true := by
    cases available with
    | fresh _ pipe _ =>
      rw [pipe]
      exact KeepsStarted.begin start link
    | conversing conversing =>
      obtain ⟨inbox, pipe⟩ := Option.isSome_iff_exists.1 conversing.isSome_pipe
      rw [pipe]
      exact conversing.started
  rw [stateAfter, Link.on_exchange]
  exact Keeps.after_bind (P := fun link : Link π => link.started = true) ready fun _ =>
    KeepsStarted.talk.pass message noReply

end DataSync.Local
