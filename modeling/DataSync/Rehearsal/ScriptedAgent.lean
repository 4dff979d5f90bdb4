import DataSync.Rehearsal.Journal
import DataSync.Session.Surroundings
import DataSync.Transport.Agent

/-!
# Scripted agents

An agent without a peer, whose answers are scripted.  Something may be scripted to happen around the
session when it takes a message.
-/

namespace DataSync

/-- A scripted answer. -/
inductive ScriptedAnswer where
  | reply (message : Message)
  | failure (reason : String)
  | timeout

/-- An agent whose answers are scripted.  A hook is what happens when the agent takes a message after
a number of others. -/
structure ScriptedAgent (η : Type) where
  core : AgentCore := {}
  script : List ScriptedAnswer := []
  hooks : List (Nat × η) := []
  sent : List Message := []
  raised : List η := []
  journal : Journal := []

namespace ScriptedAgent

variable {η : Type}

/-- Take the next answer of a script. -/
def takeAnswer (noReply : Bool) : Action (List ScriptedAnswer) Interruption (Option Message) :=
  .of fun
    | [] => (.error (.failed (.noReply .active)), [])
    | .reply message :: rest => (.ok (if noReply then none else some message), rest)
    | .failure reason :: rest => (.error (.failed (.connect reason)), rest)
    | .timeout :: rest => (.error (.failed .timeout), rest)

instance : Agent (ScriptedAgent η) where
  setUrl url := .alter fun agent => { agent with core := { agent.core with url := some url } }
  setProxy _ agent := agent
  setProxyAuth _ _ agent := agent
  setContentType contentType agent := { agent with core := { agent.core with contentType } }
  setTimeout timeout agent := { agent with core := agent.core.setTimeout timeout }
  send data := .of fun agent =>
    match agent.core.beginSend false with
    | .error e => (.error e, agent)
    | .ok core =>
      let message : Message := ⟨data, core.contentType⟩
      let hooked := (agent.hooks.filter (·.1 = agent.sent.length)).map (·.2)
      (.ok (), { agent with
        core
        sent := agent.sent ++ [message]
        raised := agent.raised ++ hooked
        journal := agent.journal ++ [.sent message] })
  cancel agent :=
    if agent.core.status = .active then { agent with core := agent.core.canceled } else agent
  shutdown agent := { agent with core := agent.core.closed }
  wait noReply agent :=
    if agent.core.status ≠ .active then (agent.core.status, agent)
    else
      let (outcome, time, script) := agent.core.drive (takeAnswer noReply) agent.script
      let core := (agent.core.elapse time).finish outcome
      (core.status, { agent with core, script })
  reply agent := agent.core.answer
  status agent := agent.core.status
  lastError agent := agent.core.lastError
  isCancelRequested agent := agent.core.cancelRequested
  requestCancel request agent :=
    { agent with core := { agent.core with cancelRequested := request } }
  waited agent := agent.core.waited

instance : Surroundings (ScriptedAgent η) η where
  happenings agent := (agent.raised, { agent with raised := [] })

end ScriptedAgent

end DataSync
