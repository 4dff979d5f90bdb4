import DataSync.Display.Obex
import DataSync.Display.Session
import DataSync.Local.Agent
import DataSync.Obex.Agent
import DataSync.Rehearsal.BareAgent
import DataSync.Rehearsal.PlannedEngine
import DataSync.Rehearsal.ScriptedAgent
import DataSync.Rehearsal.Stage
import DataSync.Rehearsal.TwoMessageEngine

/-!
# Displays of rehearsals

What stand-ins noted, what engines did, and what can be seen of an agent between two operations.
-/

namespace DataSync

open Cbor (Value)

namespace Display

instance : Display Message where
  display message := .record [("data", message.data), ("content_type", message.contentType)]

instance : Display PasswordKey := ⟨Local.keyValue⟩

instance : Display Note where
  display
    | .sent message => .record [("send", message)]
    | .given message =>
      .record [("send", message.data), ("content_type", message.contentType)]
    | .timeoutSet timeout => .record [("timeout_ms", timeout.map milliseconds)]
    | .canceled => "cancel"
    | .shutDown => "shutdown"
    | .waited noReply => .record [("wait", noReply)]
    | .posted request => .record [
        ("url", request.url), ("content_type", request.contentType), ("body", request.body),
        ("proxy", request.proxy)]
    | .discovered device => .record [("discover", device)]
    | .linked address channel => .record [("connect", address.text), ("channel", channel)]
    | .packet bytes => .record [("packet", hex bytes)]
    | .called config => .record [("spawner for", config)]
    | .spawned => "spawn"
    | .killed => "child kill"
    | .reaped => "child wait"
    | .asked name description key =>
      .record [("ask", name), ("description", description), ("key", key)]
    | .saved name password key =>
      .record [("save", name), ("password", password), ("key", key)]

/-! ## Engines -/

instance : Display StepInput where
  display
    | .start => "start"
    | .reply message => .record [("reply", message)]
    | .sent => "sent"
    | .suspend => "suspend"
    | .abort => "abort"

instance : Display ActResult where
  display
    | .content bytes => bytes
    | .inserted inserted => inserted
    | .deleted => "ok"
    | .refused status => .record [("status", status.code)]

instance : Display EngineNote where
  display
    | .began session offers => .record [("begin", session), ("offers", offers)]
    | .stepped input results => .record [("input", input), ("items", results)]

instance {η : Type} : Display (PlannedEngine η) := ⟨fun engine => engine.notes⟩

instance : Display SentItem where
  display item := .array [item.source, item.luid, item.state, item.content]

/-- The name of what happened before a step. -/
def inputName : StepInput → String
  | .start => "start"
  | .reply _ => "reply"
  | .sent => "sent"
  | .suspend => "suspend"
  | .abort => "abort"

instance : Display TwoMessageEngine where
  display engine := .record [
    ("session", engine.session), ("offers", engine.offers),
    ("inputs", engine.inputs.map inputName), ("sent", engine.sent),
    ("statuses", engine.refusals.map fun (source, luid, status) =>
      Value.array [source, luid, status.code]),
    ("applied", engine.applied)]

end Display

/-! ## Stages -/

namespace Display

instance : Display StoredItem := ⟨fun item => item.content⟩

/-- The fields of a backend. -/
def holdings (backend : ScriptedBackend) : List (String × Value) := [
  ("items", backend.memory.items), ("open", backend.memory.isOpen),
  ("opened", backend.memory.timesOpened)]

/-- A backend with what the node of its source has stored. -/
def place (backend : ScriptedBackend) (node : Option MemoryNode) : Value :=
  .record (("stored", node.map (MemoryNode.properties ·)) :: holdings backend)

/-- The fields of a stage, with what the person was asked since it was in an earlier state. -/
def scene (before after : Stage) : List (String × Value) :=
  let sessions : List (String × Value) := [
    ("sessions", after.registry.sessions),
    ("session", after.registry.sessions.contains after.synchronizer.config.name)]
  let calls := after.person.journal.drop before.person.journal.length
  [("driver", .record (sessions ++ progress after.synchronizer)),
    ("backends", .array (after.places.map fun (backend, node) => place backend node)),
    ("ui", calls)]

end Display

/-! ## Agents -/

/-- What can be seen of an agent. -/
class Exhibit (α : Type) where
  journal : α → Journal
  told : α → List Local.ParentMessage := fun _ => []
  /-- Fields that only agents of this kind have. -/
  details : α → List (String × Value) := fun _ => []
  /-- The settings of the agent. -/
  settings : α → Value := fun _ => .null

namespace Exhibit

open Display

variable {α β : Type}

instance {η : Type} : Exhibit (ScriptedAgent η) where
  journal agent := agent.journal
  details agent := [("remaining", agent.script.length)]
  settings agent := .record [
    ("url", agent.core.url), ("sent", agent.sent),
    ("timeout_ms", agent.core.timeout.map Duration.milliseconds)]

instance {η : Type} : Exhibit (BareAgent η) where
  journal agent := agent.journal

instance {γ : Type} [Journaled γ] : Exhibit (Http.HttpAgent γ) where
  journal agent := Journaled.journal agent.client
  settings agent := .record [("url", agent.core.url), ("proxy", agent.proxy)]

instance {π : Type} [Journaled π] : Exhibit (Obex.ObexAgent π) where
  journal agent := Journaled.journal agent.link.reach
  details agent := [("connect_state", agent.link.state.name)]
  settings agent := .record [("address", agent.address)]

instance : Display Local.ChildReport where
  display report := .array [report.status.toNat, report.error, report.isSuccess]

instance {μ : Type} [Journaled μ] : Exhibit (Local.LocalAgent μ) where
  journal agent := Journaled.journal agent.link.machine
  told agent := Journaled.told agent.link.machine
  details agent := [("child", .record [
    ("running", agent.isChildRunning), ("exit", agent.exitCode), ("report", agent.link.report)])]

instance [Exhibit α] [Exhibit β] : Exhibit (α ⊕ β) where
  journal := Sum.elim journal journal
  told := Sum.elim told told
  details := Sum.elim details details
  settings := Sum.elim settings settings

/-- What an agent noted, and what its child was told, since it was in an earlier state. -/
def news [Exhibit α] (before after : α) : List Value :=
  ((journal after).drop (journal before).length).map display
    ++ ((told after).drop (told before).length).map Local.ParentMessage.toValue

end Exhibit

end DataSync
