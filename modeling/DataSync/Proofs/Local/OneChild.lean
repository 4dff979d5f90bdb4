import DataSync.Proofs.Local.Watched
import DataSync.Proofs.Transport.LawfulAgents
import DataSync.Rehearsal.ChildProgram

/-!
# One child

An agent starts one child at most.  The child is told first what to synchronize, once it said that it is
ready, and only then anything else.  An agent that gave up after its child was started takes no more
messages, and the child is left alone.
-/

namespace DataSync.Local

open DataSync.Action

variable {π : Type} {start : StartSync}

/-! ## Records -/

/-- What a child said when it was started begins with that it is ready. -/
def Ready (first : Reaction) : Prop :=
  ∃ rest, (Frame.receive (μ := ChildMessage)).on (Inbox.receive first.sent first.ends {}) =
    (.ok (some .ready), rest)

namespace Watched

/-- One child was started, and was told what to synchronize after it said that it is ready, and then
messages that follow the start. -/
def Greeted (start : StartSync) (watched : Watched π) : Prop :=
  ∃ (first : Reaction) (others : List ParentMessage), watched.spawned = [.ok first] ∧ Ready first ∧
    watched.written.map .ok = (.startSync start :: others).map Frame.encode ∧
    ∀ message ∈ others, message.followsStart = true

/-- At most one child was started, and nothing was written before it was ready. -/
structure Proper (start : StartSync) (watched : Watched π) : Prop where
  once : watched.spawned.length ≤ 1
  inTurn : watched.written = [] ∨ watched.Greeted start

variable {watched : Watched π} {machine : π} {octets : Bytes}

theorem Greeted.write {message : ParentMessage} (greeted : watched.Greeted start)
    (follows : message.followsStart = true) (encoded : Frame.encode message = .ok octets) :
    Greeted start { watched with machine, written := watched.written ++ [octets] } := by
  obtain ⟨first, others, spawned, ready, written, allFollow⟩ := greeted
  refine ⟨first, others ++ [message], spawned, ready, ?_, ?_⟩
  · simp [written, encoded]
  · simpa [or_imp, forall_and] using ⟨allFollow, follows⟩

theorem Greeted.proper (greeted : watched.Greeted start) : watched.Proper start := by
  have ⟨first, others, spawned, _⟩ := greeted
  exact ⟨by simp [spawned], .inr greeted⟩

theorem Proper.aside (proper : watched.Proper start) (machine : π) :
    Proper start { watched with machine } :=
  ⟨proper.once, proper.inTurn⟩

end Watched

/-! ## Links -/

namespace Link

variable {link : Link (Watched π)}

/-- No child was started yet. -/
structure Fresh (link : Link (Watched π)) : Prop where
  pipe : link.pipe = none
  started : link.started = false
  spawned : link.machine.spawned = []
  written : link.machine.written = []

/-- A child that was started properly runs. -/
structure Running (start : StartSync) (link : Link (Watched π)) : Prop where
  pipe : link.pipe.isSome = true
  started : link.started = true
  greeted : link.machine.Greeted start

/-- A child was started, whatever became of it. -/
structure Used (start : StartSync) (link : Link (Watched π)) : Prop where
  started : link.started = true
  proper : link.machine.Proper start

/-- A child was started that has not been told anything. -/
structure Untold (first : Reaction) (link : Link (Watched π)) : Prop where
  pipe : link.pipe.isSome = true
  started : link.started = true
  spawned : link.machine.spawned = [.ok first]
  written : link.machine.written = []

/-- A child was started, and nothing was read from it yet. -/
def Spawned (first : Reaction) (link : Link (Watched π)) : Prop :=
  link.Untold first ∧ link.pipe = some (Inbox.receive first.sent first.ends {})

theorem Running.used (running : link.Running start) : link.Used start :=
  ⟨running.started, running.greeted.proper⟩

theorem Untold.used {first : Reaction} (untold : link.Untold first) : link.Used start :=
  ⟨untold.started, by simp [untold.spawned], .inl untold.written⟩

theorem leads_hear_first (first : Reaction) :
    Leads (Spawned (π := π) first) hear
      (fun got link => link.Untold first ∧ (got = some .ready → Ready first)) (Used start) := by
  rintro link ⟨untold, pipe⟩
  simp only [hear, onWire, Wire.reading, on_of, on_within, pipe, Option.getD_some]
  rcases received : (Frame.receive (μ := ChildMessage)).on (Inbox.receive first.sent first.ends {})
    with ⟨e | got, rest⟩
  · exact Untold.used ⟨rfl, untold.started, untold.spawned, untold.written⟩
  · refine ⟨⟨rfl, untold.started, untold.spawned, untold.written⟩, ?_⟩
    rintro rfl
    exact ⟨rest, received⟩

theorem keeps_drain (patience : Nat) : Keeps (Used (π := π) start) (drain patience) := by
  have heard : Keeps (Used (π := π) start) hear := fun _ used => ⟨used.started, used.proper⟩
  induction patience with
  | zero => exact keeps_pure _
  | succ patience inductionHypothesis =>
    refine heard.bind fun got => ?_
    match got with
    | some (.report report) =>
      exact .bind (fun _ used => ⟨used.started, used.proper⟩) fun _ => inductionHypothesis
    | some .ready | some (.reply _) | some (.askPassword ..) | some (.savePassword ..) =>
      exact inductionHypothesis
    | none => exact keeps_pure _

variable [Machine π]

theorem leads_tell {P Q : Link (Watched π) → Prop} {message : ParentMessage}
    (writes : ∀ link machine inbox octets, P link → Frame.encode message = .ok octets →
      Q { link with
        machine := { link.machine with machine, written := link.machine.written ++ [octets] }
        pipe := link.pipe.map fun _ => inbox }) :
    Leads P (tell message) (fun _ => Q) (fun link => P link ∨ Q link) := by
  intro link holds
  cases encoded : Frame.encode message with
  | error e =>
    -- A message that is too large for a frame is refused before anything is written.
    have same : (link.pipe.map fun _ => link.pipe.getD {}) = link.pipe := by
      cases link.pipe <;> rfl
    simp only [tell, onWire, on_of, Frame.send, encoded, on_throw, same]
    exact .inl holds
  | ok octets =>
    simp only [tell, onWire, on_of, Frame.send, encoded, Wire.send, Peer.react]
    -- What was written stays written even if the child does not take it.
    rcases (Peer.react octets).on link.machine.machine with ⟨e | reaction, machine⟩
    · exact .inr (writes link machine _ octets holds encoded)
    · exact writes link machine _ octets holds encoded

/-- A child that runs is told only what follows the start. -/
theorem Running.talk : Talk (Running (π := π) start) where
  hear link running := ⟨Option.isSome_map.trans running.pipe, running.started, running.greeted⟩
  tell follows := by
    refine Leads.keeps ((leads_tell fun link machine inbox octets running encoded => ?_).weaken
      (fun _ => id) (fun _ _ => id) fun _ => or_self_iff.1)
    exact ⟨by simpa using running.pipe, running.started, running.greeted.write follows encoded⟩
  askPassword _ _ _ _ running := ⟨running.pipe, running.started, running.greeted⟩
  savePassword _ _ _ _ running := ⟨running.pipe, running.started, running.greeted⟩
  report _ _ running := ⟨running.pipe, running.started, running.greeted⟩
  reap _ running := ⟨running.pipe, running.started, running.greeted⟩

/-- The child must say that it is ready before it is told what to synchronize. -/
theorem leads_greet (first : Reaction) :
    Leads (Spawned (π := π) first) (greet start) (fun _ => Running start) (Used start) := by
  refine .bind (leads_hear_first first) fun got => ?_
  match got with
  | some .ready =>
    refine (leads_tell fun link machine inbox octets untold encoded => ?_).weaken (fun _ => id)
      (fun _ _ => id) fun link => (Or.elim · (·.1.used) Running.used)
    obtain ⟨untold, ready⟩ := untold
    have running : link.pipe.isSome = true := untold.pipe
    refine ⟨by simpa using running, untold.started, first, [], untold.spawned, ready rfl, ?_, nofun⟩
    simp [untold.written, encoded]
  | none =>
    -- The child closed the pipe: only its exit code is asked for.
    have reaped : Keeps (Used (π := π) start) (onMachine Machine.reap) :=
      fun _ used => ⟨used.started, used.proper.aside _⟩
    refine .bind (Q := fun _ => Used start) ?_ fun code => .throw fun _ used => used
    exact reaped.leads.weaken (fun _ untold => untold.1.used) (fun _ _ => id) fun _ => id
  | some (.reply _) | some (.askPassword ..) | some (.savePassword ..) | some (.report _) =>
    -- A child that starts with anything else is killed before it is told anything.
    refine .bind (Q := fun _ => Used start) (.modify fun link untold => ?_) fun _ =>
      .throw fun _ used => used
    exact ⟨untold.1.started, untold.1.used.proper.aside _⟩

theorem leads_spawn :
    Leads (fun link : Link (Watched π) => link.pipe = none ∧ link.started = true ∧
        link.machine.spawned = [] ∧ link.machine.written = [])
      (onMachine Machine.spawn)
      (fun first link => link.started = true ∧ link.machine.spawned = [.ok first] ∧
        link.machine.written = [])
      (fun link => link.Used start ∧ link.pipe = none) := by
  rintro link ⟨pipe, started, spawned, written⟩
  simp only [onMachine, on_within, Machine.spawn, on_of]
  rcases (Machine.spawn (π := π)).on link.machine.machine with ⟨e | first, machine⟩
  · exact ⟨⟨started, by simp [spawned], .inl written⟩, pipe⟩
  · exact ⟨started, by simp [spawned], written⟩

theorem leads_begin :
    Leads (Fresh (π := π)) (begin start) (fun _ => Running start)
      (fun link => link.Used start ∧ link.pipe = none) := by
  refine .bind (Q := fun _ link => link.pipe = none ∧ link.started = true ∧
      link.machine.spawned = [] ∧ link.machine.written = [])
    (.modify fun link fresh => ⟨fresh.pipe, rfl, fresh.spawned, fresh.written⟩) fun _ => ?_
  refine .bind leads_spawn fun first => ?_
  refine .bind (Q := fun _ => Spawned first)
    (.modify fun link fresh => ⟨⟨rfl, fresh.1, fresh.2.1, fresh.2.2⟩, rfl⟩) fun _ link spawned => ?_
  have greeted := (leads_greet first : Leads _ (greet start) _ _) link spawned
  simp only [on_of]
  rcases on : (greet start).on link with ⟨e | _, after⟩ <;> rw [on] at greeted
  · exact ⟨⟨greeted.started, greeted.proper⟩, rfl⟩
  · exact greeted

/-- An exchange starts a child only if there was none, and tells it what follows then. -/
theorem leads_exchange (message : Message) (noReply : Bool) :
    Leads (fun link : Link (Watched π) => link.Fresh ∨ link.Running start)
      (exchange start message noReply) (fun _ => Running start)
      (fun link => link.Used start) := by
  have pass : Leads (Running (π := π) start) (pass message noReply) (fun _ => Running start)
      (Used start) :=
    (Running.talk.pass message noReply).leads.weaken (fun _ => id) (fun _ _ => id)
      fun _ => Running.used
  intro link available
  rw [on_exchange]
  obtain fresh | running := available
  · rw [fresh.pipe]
    exact Leads.bind (leads_begin.weaken (fun _ => id) (fun _ _ => id) fun _ => And.left)
      (fun _ => pass) link fresh
  · obtain ⟨inbox, pipe⟩ := Option.isSome_iff_exists.1 running.pipe
    rw [pipe]
    exact pass link running

theorem kill_cases (known : link.Fresh ∨ link.Used start) :
    (link.kill.Fresh ∨ link.kill.Used start) ∧ link.kill.pipe = none := by
  unfold Link.kill
  cases pipe : link.pipe with
  | none => exact ⟨known, pipe⟩
  | some inbox =>
    obtain fresh | used := known
    · cases pipe.symm.trans fresh.pipe
    · exact ⟨.inr ⟨used.started, used.proper.once, used.proper.inTurn⟩, rfl⟩

theorem leads_finish :
    Leads (Used (π := π) start) finish (fun _ link => link.Used start ∧ link.pipe = none)
      (fun link => link.Used start ∧ link.pipe = none) := by
  refine .bind (Q := fun _ => Used start)
    (fun _ used => ⟨used.started, used.proper.aside _⟩) fun last => ?_
  refine .bind (Q := fun _ => Used start)
    (.modify fun _ used => ⟨used.started, used.proper⟩) fun _ => ?_
  refine .get_bind fun link => ?_
  refine .bind ((Leads.attempt (keeps_drain _)).weaken (fun _ => And.left) (fun _ _ => id)
    fun _ => id) fun _ => ?_
  refine .bind (Q := fun _ link => link.Used start ∧ link.pipe = none)
    (.modify fun _ used => ⟨⟨used.started, used.proper⟩, rfl⟩) fun _ => ?_
  exact Keeps.leads fun _ used => ⟨⟨used.1.started, used.1.proper.aside _⟩, used.2⟩

end Link

/-! ## Agents -/

namespace LocalAgent

/-- An agent that let go of its child. -/
def Retired (agent : LocalAgent π) : Prop :=
  agent.isChildGone = true ∧ agent.core.status ≠ .active

variable [Machine π]

theorem Retired.send {agent : LocalAgent π} (retired : agent.Retired) (data : Bytes) :
    ∃ e, (Agent.send data).on agent = (.error e, agent) := by
  obtain ⟨gone, idle⟩ := retired
  simp only [Agent.send, on_of, gone, Bool.and_true]
  cases status : agent.core.status <;>
    simp_all [TransportStatus.canSend, AgentCore.beginSend]

/-- Nothing that an agent is called for after that reaches its machine. -/
theorem Retired.perform {agent : LocalAgent π} (retired : agent.Retired) (call : AgentCall) :
    (call.perform agent).Retired ∧ (call.perform agent).link = agent.link := by
  cases call with
  | send data =>
    obtain ⟨e, refused⟩ := retired.send data
    rw [show (AgentCall.send data).perform agent = agent from congrArg Prod.snd refused]
    exact ⟨retired, rfl⟩
  | cancel =>
    rw [show AgentCall.cancel.perform agent = agent from if_neg retired.2]
    exact ⟨retired, rfl⟩
  | wait noReply =>
    rw [show (AgentCall.wait noReply).perform agent = agent from
      congrArg Prod.snd (LawfulAgent.wait_idle noReply retired.2)]
    exact ⟨retired, rfl⟩
  | shutdown =>
    -- Its status does change, but there is no pipe over which a child could be told to end.
    have idle : agent.link.pipe = none := by
      have gone := retired.1
      simp only [isChildGone, Bool.and_eq_true, Option.isNone_iff_eq_none] at gone
      exact gone.2
    rw [show AgentCall.shutdown.perform agent = _ from shutdown_idle idle]
    exact ⟨⟨retired.1, nofun⟩, rfl⟩
  | _ => exact ⟨retired, rfl⟩

theorem Retired.after {agent : LocalAgent π} (retired : agent.Retired) (calls : List AgentCall) :
    (Agent.after calls agent).Retired ∧ (Agent.after calls agent).link = agent.link := by
  refine Agent.keeps_after (P := fun later : LocalAgent π => later.Retired ∧ later.link = agent.link)
    ?_ ⟨retired, rfl⟩ calls
  rintro later call ⟨retired, same⟩
  rw [← same]
  exact retired.perform call

/-- An agent that started one child at most, and properly. -/
structure OneChild (start : StartSync) (agent : LocalAgent (Watched π)) : Prop where
  start_eq : agent.start = start
  link : agent.link.Fresh ∨ agent.link.Used start
  running : agent.link.pipe.isSome = true → agent.link.Running start
  underWay : agent.core.status = .active → agent.pending.isSome = true ∧ agent.isChildGone = false
  dropped : agent.core.status ∈ [.failed, .timeOut, .canceled, .closed] → agent.link.pipe = none

variable {agent : LocalAgent (Watched π)}

omit [Machine π] in
theorem OneChild.of_dropped (start_eq : agent.start = start)
    (known : agent.link.Fresh ∨ agent.link.Used start) (dropped : agent.link.pipe = none)
    (idle : agent.core.status ≠ .active) : OneChild start agent where
  start_eq := start_eq
  link := known
  running running := by simp [dropped] at running
  underWay active := absurd active idle
  dropped _ := dropped

omit [Machine π] in
theorem OneChild.available (oneChild : OneChild start agent) (present : agent.isChildGone = false) :
    agent.link.Fresh ∨ agent.link.Running start := by
  obtain fresh | used := oneChild.link
  · exact .inl fresh
  · -- A child that was started and is not gone still has its pipe.
    refine .inr (oneChild.running ?_)
    simpa [isChildGone, used.started] using present

theorem OneChild.wait (oneChild : OneChild start agent) (noReply : Bool) :
    OneChild start (Agent.wait noReply agent).2 := by
  by_cases active : agent.core.status = .active
  · obtain ⟨pending, present⟩ := oneChild.underWay active
    obtain ⟨message, pending⟩ := Option.isSome_iff_exists.1 pending
    obtain rfl := oneChild.start_eq
    have driven := agent.core.drive_leads (Link.leads_exchange message noReply)
      (oneChild.available present)
    rw [wait_active active pending]
    generalize agent.core.drive (Link.exchange agent.start message noReply) agent.link = ended
      at driven ⊢
    obtain ⟨outcome, time, link⟩ := ended
    -- A child whose exchange was not completed is killed, if it was started at all.
    cases outcome with
    | completed reply => cases reply <;> exact ⟨rfl, .inr driven.used, fun _ => driven, nofun, nofun⟩
    | _ =>
      have known : link.Fresh ∨ link.Used agent.start :=
        driven.elim (Or.imp_right Link.Running.used) .inr
      obtain ⟨known, dropped⟩ := Link.kill_cases known
      exact .of_dropped rfl known dropped nofun
  · rwa [show Agent.wait noReply agent = (agent.core.status, agent) from if_pos active]

theorem OneChild.shutdown (oneChild : OneChild start agent) :
    OneChild start (Agent.shutdown agent) := by
  cases pipe : agent.link.pipe with
  | none =>
    rw [shutdown_idle pipe]
    exact .of_dropped oneChild.start_eq oneChild.link pipe nofun
  | some inbox =>
    have running := oneChild.running (by simp [pipe])
    obtain ⟨used, dropped⟩ := Link.leads_finish.stateAfter running.used
    rw [shutdown_running pipe]
    unfold stateAfter at used dropped
    rcases on : Link.finish.on agent.link with ⟨e | code, link⟩ <;> rw [on] at used dropped
    all_goals exact .of_dropped oneChild.start_eq (.inr used) dropped nofun

theorem OneChild.perform (oneChild : OneChild start agent) (call : AgentCall) :
    OneChild start (call.perform agent) := by
  cases call with
  | send data =>
    simp only [AgentCall.perform, stateAfter, Agent.send, on_of]
    split
    · exact oneChild
    · rename_i present
      cases begun : agent.core.beginSend false with
      | error e => exact oneChild
      | ok core =>
        -- A message is taken only while the child is not gone, so that `underWay` holds from here.
        obtain ⟨canSend, -, rfl⟩ := AgentCore.beginSend_eq_ok.1 begun
        refine ⟨oneChild.start_eq, oneChild.link, oneChild.running, fun _ => ⟨rfl, ?_⟩, ?_⟩
        · rw [canSend, Bool.true_and] at present
          exact eq_false_of_ne_true present
        · simp [AgentCore.sending]
  | cancel =>
    by_cases active : agent.core.status = .active
    · obtain ⟨known, dropped⟩ := Link.kill_cases oneChild.link
      rw [show AgentCall.cancel.perform agent = _ from if_pos active]
      exact .of_dropped oneChild.start_eq known dropped nofun
    · rwa [show AgentCall.cancel.perform agent = agent from if_neg active]
  | wait noReply => exact oneChild.wait noReply
  | shutdown => exact oneChild.shutdown
  | _ =>
    exact ⟨oneChild.start_eq, oneChild.link, oneChild.running, oneChild.underWay, oneChild.dropped⟩

theorem OneChild.after (oneChild : OneChild start agent) (calls : List AgentCall) :
    OneChild start (Agent.after calls agent) :=
  Agent.keeps_after (fun _ call oneChild => oneChild.perform call) oneChild calls

/-- An agent that gives up after its child was started lets go of it. -/
theorem OneChild.retired (oneChild : OneChild start agent) {call : AgentCall}
    (givesUp : call.GivesUp agent) (spawned : (call.perform agent).link.machine.spawned ≠ []) :
    (call.perform agent).Retired := by
  have next := oneChild.perform call
  have standsStill := LawfulAgent.status_of_givesUp givesUp
  have dropped := next.dropped standsStill
  obtain fresh | used := next.link
  · exact absurd fresh.spawned spawned
  · refine ⟨by simp [isChildGone, used.started, dropped], fun active => ?_⟩
    rw [show Agent.status (call.perform agent) = .active from active] at standsStill
    simp at standsStill

/-- An agent that was not used yet, on a machine that is watched. -/
def watched (machine : π) (start : StartSync) : LocalAgent (Watched π) :=
  { link := { machine := { machine } }, start }

/-- Whatever a child and its machine do, an agent that is called in any way starts one child at most,
tells it first what to synchronize, and neither takes messages nor touches the machine once it let go of
the child.  Being watched does not change what the agent does. -/
theorem at_most_one_child (machine : π) (start : StartSync) (calls : List AgentCall) :
    (Agent.after calls (watched machine start)).plain Watched.machine =
      Agent.after calls { link := { machine }, start } ∧
    (Agent.after calls (watched machine start)).link.machine.Proper start ∧
    ∀ call later, call.GivesUp (Agent.after calls (watched machine start)) →
      (Agent.after (calls ++ [call]) (watched machine start)).link.machine.spawned ≠ [] →
        (∀ data, ∃ e, (Agent.send data).on
            (Agent.after (calls ++ call :: later) (watched machine start)) =
          (.error e, Agent.after (calls ++ call :: later) (watched machine start))) ∧
        (Agent.after (calls ++ call :: later) (watched machine start)).link =
          (Agent.after (calls ++ [call]) (watched machine start)).link := by
  have unused : OneChild start (watched machine start) :=
    ⟨rfl, .inl ⟨rfl, rfl, rfl, rfl⟩, nofun, nofun, nofun⟩
  have oneChild := unused.after calls
  refine ⟨(after_plain Watched.recorded calls (watched machine start)).symm, ?_,
    fun call later givesUp spawned => ?_⟩
  · obtain fresh | used := oneChild.link
    · exact ⟨by simp [fresh.spawned], .inl fresh.written⟩
    · exact used.proper
  · simp only [Agent.after_append, Agent.after_cons, Agent.after_nil] at spawned ⊢
    obtain ⟨retired, same⟩ := (oneChild.retired givesUp spawned).after later
    exact ⟨retired.send, same⟩

/-- A machine with a child that ends before it answers. -/
def fainting : ProgramMachine :=
  { child := .ofSteps [.ready, .start, .next, .fail] }

/-- A child that did not answer is left alone, and the next message is refused. -/
theorem at_most_one_child_of_fainting :
    AgentCall.GivesUp (.wait false) (Agent.after [.send [1]] (watched fainting {})) ∧
    (Agent.after [.send [1], .wait false] (watched fainting {})).link.machine.spawned ≠ [] ∧
    (Agent.after [.send [1], .wait false] (watched fainting {})).link.machine.written.length = 2 ∧
    (Agent.after [.send [1]] (watched fainting {})).link.machine.Proper {} ∧
    (∀ data, ∃ e, (Agent.send data).on
        (Agent.after [.send [1], .wait false, .send [2], .wait false] (watched fainting {})) =
      (.error e, Agent.after [.send [1], .wait false, .send [2], .wait false] (watched fainting {}))) ∧
    (Agent.after [.send [1], .wait false, .send [2], .wait false] (watched fainting {})).link =
      (Agent.after [.send [1], .wait false] (watched fainting {})).link := by
  have givesUp : AgentCall.GivesUp (.wait false) (Agent.after [.send [1]] (watched fainting {})) :=
    show (Agent.wait false _).1 ∈ _ by decide +kernel
  have spawned : (Agent.after ([.send [1]] ++ [.wait false])
      (watched fainting {})).link.machine.spawned ≠ [] := by decide +kernel
  obtain ⟨-, proper, leftAlone⟩ := at_most_one_child fainting {} [.send [1]]
  replace leftAlone := leftAlone (.wait false) [.send [2], .wait false] givesUp spawned
  simp only [List.cons_append, List.nil_append] at spawned leftAlone
  exact ⟨givesUp, spawned, by decide +kernel, proper, leftAlone⟩

end LocalAgent

end DataSync.Local
