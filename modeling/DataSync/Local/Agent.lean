import DataSync.Local.Frame
import DataSync.Transport.Agent

/-!
# The local agent

The other side runs in a child on the same machine, which is started with the first message.  While a
message is under way the child may ask for passwords, and the agent passes that on to the person at
the machine.  A child whose exchange did not come to its end is killed, and there is no second one.
-/

namespace DataSync.Local

/-- A machine on which one child can be started.  The octets that reach the state as a `Peer` are
those that reach the child. -/
class Machine (π : Type) extends Peer π, UserInterface π where
  /-- Start the child; the answer is what it says first. -/
  spawn : Action π Interruption Reaction
  /-- Close the pipe to the child; the answer is what it says then. -/
  hangUp : StateM π Reaction
  /-- Make the child end. -/
  kill : π → π
  /-- Wait for the child to end; the answer is its exit code, if it has one. -/
  reap : Action π Interruption (Option Int)

/-- The text of an exit code. -/
def exitText : Option Int → String
  | none => "None"
  | some code => "Some(" ++ toString code ++ ")"

/-- A machine, the pipe from the child if it runs, whether one was started, and its last report. -/
structure Link (π : Type) where
  machine : π
  pipe : Option Inbox := none
  started : Bool := false
  report : Option ChildReport := none

namespace Link

variable {π : Type} [Machine π] {α : Type}

/-- The failure of a child. -/
def childFailed (reason : String) : Interruption :=
  .failed (.childFailed reason)

/-- An operation on the machine. -/
def onMachine (action : Action π Interruption α) : Action (Link π) Interruption α :=
  action.within (·.machine) fun machine link => { link with machine }

/-- A question to the person at the machine. -/
def ask (question : StateM π α) : Action (Link π) Interruption α :=
  .of fun link => match question link.machine with
    | (answer, machine) => (.ok answer, { link with machine })

/-- An operation on the wire to the child. -/
def onWire (action : Action (Wire π) Interruption α) : Action (Link π) Interruption α :=
  .of fun link => match action.on { peer := link.machine, inbox := link.pipe.getD {} } with
    | (result, wire) =>
      (result, { link with machine := wire.peer, pipe := link.pipe.map fun _ => wire.inbox })

/-- The next message from the child. -/
def hear : Action (Link π) Interruption (Option ChildMessage) :=
  onWire (Wire.reading Frame.receive)

/-- Tell the child something. -/
def tell (message : ParentMessage) : Action (Link π) Interruption Unit :=
  onWire (Frame.send message)

/-- Kill the child if it runs. -/
def kill (link : Link π) : Link π :=
  match link.pipe with
  | none => link
  | some _ =>
    { link with
      pipe := none
      machine := (Machine.reap (π := π)).stateAfter (Machine.kill link.machine) }

/-- What the child must say first, and what it is told then. -/
def greet (start : StartSync) : Action (Link π) Interruption Unit := do
  match ← hear with
  | some .ready => tell (.startSync start)
  | some other =>
    modify fun link => { link with machine := Machine.kill link.machine }
    throw (disorder ("expected Ready from child, got " ++ other.kind))
  | none =>
    let code ← onMachine Machine.reap
    throw (childFailed ("child exited with " ++ exitText code ++ " before it was ready"))

/-- Start the child.  One that does not greet properly does not count as running. -/
def begin (start : StartSync) : Action (Link π) Interruption Unit := do
  modify fun link => { link with started := true }
  let first ← onMachine Machine.spawn
  modify fun link => { link with pipe := some (Inbox.receive first.sent first.ends {}) }
  .of fun link => match (greet start).on link with
    | (.ok (), link) => (.ok (), link)
    | (.error e, link) => (.error e, { link with pipe := none })

/-- Why the child ended before it answered. -/
def gone : Action (Link π) Interruption α := do
  match (← get).report.filter fun report => !report.isSuccess with
  | some report => throw (.failed (.childReport report.status.toNat (report.error.getD "")))
  | none =>
    let code ← onMachine Machine.reap
    throw (childFailed ("child exited with " ++ exitText code ++ " without replying"))

/-- Listen to the child until it answers, for at most `patience` of its messages. -/
def listen : (patience : Nat) → Action (Link π) Interruption Message
  | 0 => throw .stalled
  | patience + 1 => do
    match ← hear with
    | some (.reply message) => return message
    | some (.askPassword name description key) =>
      let password ← ask (UserInterface.askPassword name description key)
      tell (.passwordResponse password)
      listen patience
    | some (.savePassword name password key) =>
      let saved ← ask (UserInterface.savePassword name password key)
      tell (.savePasswordResponse saved)
      listen patience
    | some (.report report) =>
      modify fun link => { link with report := some report }
      listen patience
    | some .ready => throw (disorder "unexpected Ready from child")
    | none => gone

/-- A bound on the messages that the child still sends. -/
def patience (link : Link π) : Nat :=
  Wire.patience { peer := link.machine, inbox := link.pipe.getD {} }

/-- Pass a message to the child, which is started if it was not yet, and wait for the answer if one
is wanted. -/
def exchange (start : StartSync) (message : Message) (noReply : Bool) :
    Action (Link π) Interruption (Option Message) := do
  if (← get).pipe.isNone then begin start
  tell (.message message)
  if noReply then return none
  else return some (← listen (patience (← get)))

/-- Read what the child still says, for at most `patience` messages, and keep its reports. -/
def drain : (patience : Nat) → Action (Link π) Interruption Unit
  | 0 => pure ()
  | patience + 1 => do
    match ← hear with
    | some (.report report) =>
      modify fun link => { link with report := some report }
      drain patience
    | some _ => drain patience
    | none => pure ()

/-- Let the child come to its end, and give its exit code. -/
def finish : Action (Link π) Interruption (Option Int) := do
  let last ← ask Machine.hangUp
  modify fun link => { link with pipe := link.pipe.map fun inbox => inbox.receive last.sent last.ends }
  let _ ← (drain (patience (← get))).attempt
  modify fun link => { link with pipe := none }
  onMachine Machine.reap

end Link

/-- An agent that passes messages to a child. -/
structure LocalAgent (π : Type) where
  link : Link π
  start : StartSync := {}
  core : AgentCore := {}
  pending : Option Message := none
  exitCode : Option Int := none

namespace LocalAgent

variable {π : Type} [Machine π]

/-- Whether the child runs. -/
def isChildRunning (agent : LocalAgent π) : Bool :=
  agent.link.pipe.isSome

/-- Whether there was a child, and it does not run any more. -/
def isChildGone (agent : LocalAgent π) : Bool :=
  agent.link.started && agent.link.pipe.isNone

instance : Agent (LocalAgent π) where
  setUrl url := .alter fun agent => { agent with core := { agent.core with url := some url } }
  setProxy _ agent := agent
  setProxyAuth _ _ agent := agent
  setContentType contentType agent := { agent with core := { agent.core with contentType } }
  setTimeout timeout agent := { agent with core := agent.core.setTimeout timeout }
  send data := .of fun agent =>
    if agent.core.status.canSend && agent.isChildGone then
      (.error (.childFailed "local sync child is gone"), agent)
    else match agent.core.beginSend false with
      | .error e => (.error e, agent)
      | .ok core => (.ok (), { agent with core, pending := some ⟨data, core.contentType⟩ })
  cancel agent :=
    if agent.core.status = .active then
      { agent with core := agent.core.canceled, pending := none, link := agent.link.kill }
    else agent
  shutdown agent :=
    let agent := { agent with pending := none }
    let agent := if agent.isChildRunning then
        match Link.finish.on agent.link with
        | (.ok code, link) => { agent with link, exitCode := code }
        | (.error _, link) => { agent with link }
      else agent
    { agent with core := agent.core.closed }
  wait noReply agent :=
    if agent.core.status ≠ .active then (agent.core.status, agent)
    else match agent.pending with
      | none =>
        let core := agent.core.finish .canceled
        (core.status, { agent with core })
      | some message =>
        let (outcome, time, link) :=
          agent.core.drive (Link.exchange agent.start message noReply) agent.link
        let link := if outcome.isCompleted then link else link.kill
        let core := (agent.core.elapse time).finish outcome
        (core.status, { agent with link, core, pending := none })
  reply agent := agent.core.answer
  status agent := agent.core.status
  lastError agent := agent.core.lastError
  isCancelRequested agent := agent.core.cancelRequested
  requestCancel request agent :=
    { agent with core := { agent.core with cancelRequested := request } }
  waited agent := agent.core.waited

end LocalAgent

end DataSync.Local
