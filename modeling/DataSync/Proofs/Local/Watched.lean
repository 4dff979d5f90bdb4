import DataSync.Proofs.Local.Conversation
import DataSync.Proofs.Transport.Calls
import DataSync.Proofs.Transport.Mimicry

/-!
# Watched machines

What an agent does to its machine: which children it starts, and what it writes to them.  An agent on
a machine that is watched does what it does on the machine alone.
-/

namespace DataSync.Local

open DataSync.Action

/-- A machine with what came of starting children, and with what was written to them. -/
structure Watched (π : Type) where
  machine : π
  spawned : List (Except Interruption Reaction) := []
  written : List Bytes := []

variable {π τ α : Type}

namespace Watched

variable [Machine π]

instance : Peer (Watched π) where
  react bytes := .of fun watched => match (Peer.react bytes).on watched.machine with
    | (result, machine) => (result, { watched with machine, written := watched.written ++ [bytes] })
  stamina watched := Peer.stamina watched.machine

/-- Something that does not concern children. -/
def aside (action : StateM π α) : StateM (Watched π) α :=
  fun watched => match action watched.machine with
    | (answer, machine) => (answer, { watched with machine })

instance : UserInterface (Watched π) where
  askPassword name description key := aside (UserInterface.askPassword name description key)
  savePassword name password key := aside (UserInterface.savePassword name password key)

instance : Machine (Watched π) where
  spawn := .of fun watched => match (Machine.spawn (π := π)).on watched.machine with
    | (result, machine) => (result, { watched with machine, spawned := watched.spawned ++ [result] })
  hangUp := aside Machine.hangUp
  kill watched := { watched with machine := Machine.kill watched.machine }
  reap := Machine.reap.within (·.machine) fun machine watched => { watched with machine }

end Watched

/-! ## Agents on machines with a record -/

/-- A machine with a record beside it. -/
structure Machine.Recorded [Machine π] [Machine τ] (forget : τ → π) : Prop extends
    Peer.Recorded forget where
  askPassword : ∀ name description key t,
    UserInterface.askPassword name description key (forget t) =
      ((UserInterface.askPassword name description key t).1,
        forget (UserInterface.askPassword name description key t).2)
  savePassword : ∀ name password key t,
    UserInterface.savePassword name password key (forget t) =
      ((UserInterface.savePassword name password key t).1,
        forget (UserInterface.savePassword name password key t).2)
  spawn : Mimics forget Machine.spawn Machine.spawn
  hangUp : ∀ t, Machine.hangUp (forget t) = ((Machine.hangUp t).1, forget (Machine.hangUp t).2)
  kill : ∀ t, Machine.kill (forget t) = forget (Machine.kill t)
  reap : Mimics forget Machine.reap Machine.reap

theorem Watched.recorded [Machine π] : Machine.Recorded (Watched.machine (π := π)) where
  react _ _ := rfl
  stamina _ := rfl
  askPassword _ _ _ _ := rfl
  savePassword _ _ _ _ := rfl
  spawn _ := rfl
  hangUp _ := rfl
  kill _ := rfl
  reap _ := rfl

namespace Link

/-- A link to the machine without the record. -/
def plain (forget : τ → π) (link : Link τ) : Link π :=
  { machine := forget link.machine, pipe := link.pipe, started := link.started, report := link.report }

variable {forget : τ → π}

theorem mimics_onMachine {action : Action τ Interruption α} {plainAction : Action π Interruption α}
    (mimics : Mimics forget action plainAction) :
    Mimics (plain forget) (onMachine action) (onMachine plainAction) :=
  .within mimics (fun _ => rfl) (fun _ _ => rfl)

theorem mimics_ask {question : StateM τ α} {plainQuestion : StateM π α}
    (same : ∀ t, plainQuestion (forget t) = ((question t).1, forget (question t).2)) :
    Mimics (plain forget) (ask question) (ask plainQuestion) := by
  intro link
  simp only [ask, on_of]
  rw [show (link.plain forget).machine = forget link.machine from rfl, same]
  rfl

theorem mimics_onWire {action : Action (Wire τ) Interruption α}
    {plainAction : Action (Wire π) Interruption α}
    (mimics : Mimics (Wire.plain forget) action plainAction) :
    Mimics (plain forget) (onWire action) (onWire plainAction) := by
  intro link
  have same := mimics { peer := link.machine, inbox := link.pipe.getD {} }
  simp only [Wire.plain] at same
  simp only [onWire, on_of, plain, same]

theorem mimics_hear : Mimics (plain forget) hear hear :=
  mimics_onWire (Wire.mimics_reading _)

theorem mimics_drain (patience : Nat) : Mimics (plain forget) (drain patience) (drain patience) := by
  induction patience with
  | zero => exact .pure _
  | succ patience inductionHypothesis =>
    refine .bind mimics_hear fun got => ?_
    match got with
    | some (.report report) => exact .bind (.modify fun _ => rfl) fun _ => inductionHypothesis
    | some .ready | some (.reply _) | some (.askPassword ..) | some (.savePassword ..) =>
      exact inductionHypothesis
    | none => exact .pure _

variable [Machine π] [Machine τ] (recorded : Machine.Recorded forget)

include recorded

theorem mimics_tell (message : ParentMessage) :
    Mimics (plain forget) (tell message) (tell message) := by
  refine mimics_onWire ?_
  unfold Frame.send
  cases Frame.encode message with
  | ok bytes => exact Wire.mimics_send recorded.toRecorded bytes
  | error e => exact .throw _

theorem mimics_greet (start : StartSync) : Mimics (plain forget) (greet start) (greet start) := by
  refine .bind mimics_hear fun got => ?_
  match got with
  | some .ready => exact mimics_tell recorded _
  | none => exact .bind (mimics_onMachine recorded.reap) fun code => .throw _
  | some (.reply _) | some (.askPassword ..) | some (.savePassword ..) | some (.report _) =>
    refine .bind (.modify fun link => ?_) fun _ => .throw _
    simp [plain, recorded.kill]

theorem mimics_begin (start : StartSync) : Mimics (plain forget) (begin start) (begin start) := by
  refine .bind (.modify fun _ => rfl) fun _ => ?_
  refine .bind (mimics_onMachine recorded.spawn) fun first => ?_
  refine .bind (.modify fun _ => rfl) fun _ link => ?_
  simp only [on_of]
  rw [mimics_greet recorded start link]
  rcases (greet start).on link with ⟨e | done, after⟩ <;> rfl

theorem mimics_gone : Mimics (plain forget) (gone (α := α)) (gone (α := α)) := by
  refine .get_bind fun link => ?_
  simp only [plain]
  split
  · exact .throw _
  · exact .bind (mimics_onMachine recorded.reap) fun code => .throw _

theorem mimics_listen (patience : Nat) :
    Mimics (plain forget) (listen patience) (listen patience) := by
  induction patience with
  | zero => exact .throw _
  | succ patience inductionHypothesis =>
    refine .bind mimics_hear fun got => ?_
    match got with
    | some (.reply message) => exact .pure _
    | some (.askPassword name description key) =>
      refine .bind (mimics_ask (recorded.askPassword name description key)) fun password => ?_
      exact .bind (mimics_tell recorded _) fun _ => inductionHypothesis
    | some (.savePassword name password key) =>
      refine .bind (mimics_ask (recorded.savePassword name password key)) fun saved => ?_
      exact .bind (mimics_tell recorded _) fun _ => inductionHypothesis
    | some (.report report) => exact .bind (.modify fun _ => rfl) fun _ => inductionHypothesis
    | some .ready => exact .throw _
    | none => exact mimics_gone recorded

theorem patience_plain (link : Link τ) : (link.plain forget).patience = link.patience :=
  Wire.patience_plain recorded.toRecorded { peer := link.machine, inbox := link.pipe.getD {} }

theorem mimics_exchange (start : StartSync) (message : Message) (noReply : Bool) :
    Mimics (plain forget) (exchange start message noReply) (exchange start message noReply) := by
  have pass : Mimics (plain forget) (pass message noReply) (pass message noReply) := by
    refine .bind (mimics_tell recorded _) fun _ => ?_
    split
    · exact .pure _
    · refine .get_bind fun link => ?_
      rw [patience_plain recorded]
      exact .bind (mimics_listen recorded _) fun reply => .pure _
  have ready (pipe : Option Inbox) : Mimics (plain forget)
      (if pipe.isNone then begin start else Pure.pure ())
      (if pipe.isNone then begin start else Pure.pure ()) := by
    split
    · exact mimics_begin recorded start
    · exact .pure _
  intro link
  rw [on_exchange, on_exchange]
  exact (ready link.pipe).bind (fun _ => pass) link

theorem kill_plain (link : Link τ) : (link.plain forget).kill = link.kill.plain forget := by
  rcases link with ⟨machine, _ | inbox, started, report⟩
  · rfl
  · simp only [kill, plain, recorded.kill]
    rw [recorded.reap.stateAfter]

theorem mimics_finish : Mimics (plain forget) finish finish := by
  refine .bind (mimics_ask recorded.hangUp) fun last => .bind (.modify fun _ => rfl) fun _ => ?_
  refine .get_bind fun link => ?_
  rw [patience_plain recorded]
  refine .bind (.attempt (mimics_drain _)) fun _ => .bind (.modify fun _ => rfl) fun _ => ?_
  exact mimics_onMachine recorded.reap

end Link

namespace LocalAgent

/-- An agent on the machine without the record. -/
def plain (forget : τ → π) (agent : LocalAgent τ) : LocalAgent π :=
  { link := agent.link.plain forget, start := agent.start, core := agent.core,
    pending := agent.pending, exitCode := agent.exitCode }

variable [Machine π] [Machine τ]

/-- Waiting for a message under way is the exchange of it. -/
theorem wait_active {agent : LocalAgent π} {message : Message}
    (active : agent.core.status = .active) (pending : agent.pending = some message) (noReply : Bool) :
    (Agent.wait noReply agent).2 =
      match agent.core.drive (Link.exchange agent.start message noReply) agent.link with
      | (outcome, time, link) => { agent with
          link := if outcome.isCompleted then link else link.kill
          core := (agent.core.elapse time).finish outcome
          pending := none } := by
  simp [Agent.wait, active, pending]

theorem shutdown_idle {agent : LocalAgent π} (idle : agent.link.pipe = none) :
    Agent.shutdown agent = { agent with core := agent.core.closed, pending := none } := by
  simp [Agent.shutdown, isChildRunning, idle]

theorem shutdown_running {agent : LocalAgent π} {inbox : Inbox}
    (running : agent.link.pipe = some inbox) :
    Agent.shutdown agent =
      match Link.finish.on agent.link with
      | (.ok code, link) =>
        { agent with link, core := agent.core.closed, pending := none, exitCode := code }
      | (.error _, link) => { agent with link, core := agent.core.closed, pending := none } := by
  simp only [Agent.shutdown, isChildRunning, running, Option.isSome_some, if_true]
  rcases Link.finish.on agent.link with ⟨e | code, link⟩ <;> rfl

variable {forget : τ → π} (recorded : Machine.Recorded forget)

include recorded

theorem perform_plain (call : AgentCall) (agent : LocalAgent τ) :
    call.perform (agent.plain forget) = (call.perform agent).plain forget := by
  cases call with
  | send data =>
    simp only [AgentCall.perform, stateAfter, Agent.send, on_of]
    have gone : (agent.plain forget).isChildGone = agent.isChildGone := rfl
    simp only [gone, show (agent.plain forget).core = agent.core from rfl]
    split
    · rfl
    · cases agent.core.beginSend false <;> rfl
  | cancel =>
    by_cases active : agent.core.status = .active <;>
      simp [AgentCall.perform, Agent.cancel, plain, active, Link.kill_plain recorded]
  | wait noReply =>
    by_cases active : agent.core.status = .active
    · cases pending : agent.pending with
      | none => simp [AgentCall.perform, Agent.wait, plain, active, pending]
      | some message =>
        have same : (agent.plain forget).core.drive
            (Link.exchange (agent.plain forget).start message noReply) (agent.plain forget).link = _ :=
          AgentCore.drive_mimics (Link.mimics_exchange recorded agent.start message noReply)
            agent.core agent.link
        simp only [AgentCall.perform]
        rw [wait_active active pending, wait_active
          (show (agent.plain forget).core.status = .active from active) pending, same]
        rcases agent.core.drive (Link.exchange agent.start message noReply) agent.link
          with ⟨outcome, time, link⟩
        cases outcome <;> simp [Outcome.isCompleted, plain, Link.kill_plain recorded]
    · simp [AgentCall.perform, Agent.wait, plain, active]
  | shutdown =>
    cases running : agent.link.pipe with
    | none =>
      simp only [AgentCall.perform]
      rw [shutdown_idle running,
        shutdown_idle (show (agent.plain forget).link.pipe = none from running)]
      rfl
    | some inbox =>
      have same : Link.finish.on (agent.plain forget).link = _ :=
        Link.mimics_finish recorded agent.link
      simp only [AgentCall.perform]
      rw [shutdown_running running,
        shutdown_running (show (agent.plain forget).link.pipe = some inbox from running), same]
      rcases Link.finish.on agent.link with ⟨e | code, link⟩ <;> rfl
  | _ => rfl

/-- Whatever is called for, the record makes no difference. -/
theorem after_plain (calls : List AgentCall) (agent : LocalAgent τ) :
    Agent.after calls (agent.plain forget) = (Agent.after calls agent).plain forget :=
  Agent.after_map (perform_plain recorded) calls agent

end LocalAgent

end DataSync.Local
