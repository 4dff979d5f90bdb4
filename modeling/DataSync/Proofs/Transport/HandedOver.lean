import DataSync.Http.Agent
import DataSync.Proofs.Obex.Contacts
import DataSync.Proofs.Transport.LawfulAgents
import DataSync.Rehearsal.ScriptedClient

/-!
# Messages that are handed over

A message is handed over to an agent first and sent when the agent is waited for.  What is set in
between is for the next message: over HTTP all of it, over OBEX all but the peer, which is the one that
was named last when the agent is waited for.
-/

namespace DataSync

open DataSync.Action

/-- Whether a call sets what messages are sent with. -/
def AgentCall.isParameter : AgentCall → Bool
  | setUrl _ | setProxy _ | setProxyAuth _ _ | setContentType _ | setTimeout _ => true
  | _ => false

/-- What two agents keep in every call that sets something, they keep in all of them. -/
theorem Agent.keeps_after_parameters {α : Type} [Agent α] {R : α → α → Prop}
    (keeps : ∀ first second (call : AgentCall), call.isParameter = true → R first second →
      R (call.perform first) (call.perform second))
    (first second : α) (related : R first second) {later : List AgentCall}
    (parameters : ∀ call ∈ later, call.isParameter = true) :
    R (Agent.after later first) (Agent.after later second) := by
  induction later generalizing first second with
  | nil => exact related
  | cons call more inductionHypothesis =>
    obtain ⟨parameter, others⟩ := List.forall_mem_cons.1 parameters
    exact inductionHypothesis _ _ (keeps first second call parameter related) others

namespace Http

/-- What messages are sent with. -/
structure Settings where
  url : Option String
  contentType : String
  timeout : Option Duration
  proxy : Option Proxy

namespace HttpAgent

variable {γ : Type}

def settings (agent : HttpAgent γ) : Settings :=
  ⟨agent.core.url, agent.core.contentType, agent.core.timeout, agent.proxy⟩

def withSettings (settings : Settings) (agent : HttpAgent γ) : HttpAgent γ :=
  { agent with
    core := { agent.core with
      url := settings.url, contentType := settings.contentType, timeout := settings.timeout }
    proxy := settings.proxy }

/-- The request for data with the settings that an agent has now. -/
def request (agent : HttpAgent γ) (data : Bytes) : Request :=
  { url := agent.core.url.getD "", contentType := agent.core.contentType, body := data
    proxy := agent.proxy }

variable [Client γ] {agent other sent : HttpAgent γ} {call : AgentCall} {later : List AgentCall}

/-- What a call that sets something sets depends on what was set before, and nothing else changes. -/
theorem perform_parameter (parameter : call.isParameter = true)
    (same : agent.settings = other.settings) :
    call.perform agent = agent.withSettings (call.perform other).settings := by
  obtain ⟨url, contentType, timeout, proxy⟩ := Settings.mk.injEq .. ▸ same
  cases call with
  | setUrl target =>
    by_cases valid : isUrl target <;>
      simp [AgentCall.perform, stateAfter, Agent.setUrl, valid, settings, withSettings, ← url,
        ← contentType, ← timeout, ← proxy]
  | setProxy | setProxyAuth | setContentType | setTimeout =>
    simp [AgentCall.perform, Agent.setProxy, Agent.setProxyAuth, Agent.setContentType,
      Agent.setTimeout, AgentCore.setTimeout, settings, withSettings, ← url, ← contentType, ← timeout,
      ← proxy]
  | _ => cases parameter

theorem after_parameters (parameters : ∀ call ∈ later, call.isParameter = true)
    (same : agent.settings = other.settings) :
    Agent.after later agent = agent.withSettings (Agent.after later other).settings := by
  have start : agent = agent.withSettings other.settings := by
    rw [← same]
    rfl
  refine Agent.keeps_after_parameters
    (R := fun first second => first = agent.withSettings second.settings) ?_ agent other start parameters
  rintro _ second call parameter rfl
  exact perform_parameter parameter rfl

theorem wait_active {request : Request} (active : agent.core.status = .active)
    (pending : agent.pending = some request) (noReply : Bool) :
    Agent.wait noReply agent =
      match agent.core.drive (transfer request noReply) agent.client with
      | (outcome, time, client) => (outcome.status, { agent with
          client, core := (agent.core.elapse time).finish outcome, pending := none }) := by
  simp [Agent.wait, active, pending]

/-- Settings make no difference to the message under way, and it makes none to them. -/
theorem wait_withSettings (settings : Settings) (noReply : Bool) (agent : HttpAgent γ) :
    Agent.wait noReply (agent.withSettings settings) =
      ((Agent.wait noReply agent).1, (Agent.wait noReply agent).2.withSettings settings) := by
  by_cases active : agent.core.status = .active
  · cases pending : agent.pending with
    | none => simp [Agent.wait, withSettings, active, pending, AgentCore.finish]
    | some request =>
      -- The transfer depends on the deadline, which was set when the message was handed over.
      have same : (agent.withSettings settings).core.drive (transfer request noReply)
          (agent.withSettings settings).client =
        agent.core.drive (transfer request noReply) agent.client := rfl
      rw [wait_active (show (agent.withSettings settings).core.status = .active from active) pending,
        same, wait_active active pending]
      rcases agent.core.drive (transfer request noReply) agent.client with ⟨outcome, time, client⟩
      rcases outcome with (_ | _) | _ | _ | _ <;> rfl
  · simp [Agent.wait, withSettings, active]

theorem eq_of_taken {data : Bytes} (taken : (Agent.send data).on agent = (.ok (), sent)) :
    sent = { agent with core := agent.core.sending, pending := some (agent.request data) } :=
  (AgentCore.eq_take_of_taken taken).2

theorem stateAfter_transfer (request : Request) (noReply : Bool) (client : γ) :
    (transfer request noReply).stateAfter client = (Client.post request).stateAfter client := by
  unfold transfer stateAfter
  rw [on_bind]
  rcases (Client.post request).on client with ⟨e | response, after⟩ <;> rfl

theorem client_wait {data : Bytes} (taken : (Agent.send data).on agent = (.ok (), sent))
    (noReply : Bool) :
    (Agent.wait noReply sent).2.client = (Client.post (agent.request data)).stateAfter agent.client := by
  obtain rfl := eq_of_taken taken
  -- Nobody called the transfer off, so that it was made to its end, even if that came too late.
  have uncanceled : agent.core.sending.cancelRequested = false := rfl
  have driven := AgentCore.drive_state uncanceled (transfer (agent.request data) noReply) agent.client
  rw [stateAfter_transfer] at driven
  rw [← driven]
  rfl

end HttpAgent

end Http

namespace Obex

/-- What messages are sent with, and where. -/
structure Settings where
  url : Option String
  contentType : String
  timeout : Option Duration
  address : Option Address
deriving DecidableEq

namespace ObexAgent

variable {π : Type}

def settings (agent : ObexAgent π) : Settings :=
  ⟨agent.core.url, agent.core.contentType, agent.core.timeout, agent.address⟩

/-- An agent with a message under way that nobody called off.  The peers within reach do not know of it
and are in some state. -/
structure Holds (reach : π) (message : Message) (agent : ObexAgent π) : Prop where
  active : agent.core.status = .active
  uncanceled : agent.core.cancelRequested = false
  located : agent.core.url.isSome = true
  pending : agent.pending = some message
  reach_eq : agent.link.reach = reach

variable [Reach π] {agent other : ObexAgent π} {call : AgentCall} {later : List AgentCall} {reach : π}
  {message : Message}

theorem Holds.perform (holds : agent.Holds reach message) (parameter : call.isParameter = true) :
    Holds reach message (call.perform agent) := by
  cases call with
  | setUrl url =>
    simp only [AgentCall.perform, stateAfter, Agent.setUrl, on_of]
    split
    · exact holds
    · -- Even if the connection is dropped, nobody is told.
      refine ⟨holds.active, holds.uncanceled, rfl, holds.pending, ?_⟩
      dsimp only
      split <;> exact holds.reach_eq
  | setProxy | setProxyAuth | setContentType | setTimeout =>
    exact ⟨holds.active, holds.uncanceled, holds.located, holds.pending, holds.reach_eq⟩
  | _ => cases parameter

theorem Holds.after (holds : agent.Holds reach message)
    (parameters : ∀ call ∈ later, call.isParameter = true) :
    Holds reach message (Agent.after later agent) :=
  Agent.keeps_after_parameters (R := fun agent _ => agent.Holds reach message)
    (fun _ _ _ parameter holds => holds.perform parameter) agent agent holds parameters

/-- What a call that sets something sets depends on what was set before. -/
theorem settings_perform (parameter : call.isParameter = true)
    (same : agent.settings = other.settings) :
    (call.perform agent).settings = (call.perform other).settings := by
  obtain ⟨url, contentType, timeout, address⟩ := Settings.mk.injEq .. ▸ same
  cases call with
  | setUrl target =>
    simp only [AgentCall.perform, stateAfter, Agent.setUrl, on_of]
    cases Address.parse target with
    | error e => exact same
    | ok parsed => simp [settings, contentType, timeout]
  | setProxy | setProxyAuth | setContentType | setTimeout =>
    simp [AgentCall.perform, Agent.setProxy, Agent.setProxyAuth, Agent.setContentType,
      Agent.setTimeout, AgentCore.setTimeout, settings, url, contentType, timeout, address]
  | _ => cases parameter

theorem settings_after (parameters : ∀ call ∈ later, call.isParameter = true)
    (same : agent.settings = other.settings) :
    (Agent.after later agent).settings = (Agent.after later other).settings :=
  Agent.keeps_after_parameters
    (R := fun first second : ObexAgent π => first.settings = second.settings)
    (fun _ _ _ => settings_perform) agent other same parameters

theorem holds_of_taken {data : Bytes} {sent : ObexAgent π}
    (taken : (Agent.send data).on agent = (.ok (), sent)) :
    sent.Holds agent.link.reach ⟨data, agent.core.contentType⟩ ∧ sent.settings = agent.settings := by
  simp only [Agent.send, on_of] at taken
  cases begun : agent.core.beginSend true with
  | error e =>
    rw [begun] at taken
    cases taken
  | ok core =>
    obtain ⟨-, located, rfl⟩ := AgentCore.beginSend_eq_ok.1 begun
    rw [begun] at taken
    cases taken
    have isSome : agent.core.url.isSome = true := by simpa using located
    exact ⟨⟨rfl, rfl, isSome, rfl, rfl⟩, rfl⟩

theorem settings_wait (noReply : Bool) (agent : ObexAgent π) :
    (Agent.wait noReply agent).2.settings = agent.settings := by
  by_cases active : agent.core.status = .active
  · cases pending : agent.pending with
    | none => simp [Agent.wait, active, pending, settings]
    | some message =>
      cases addressed : agent.address with
      | none => simp [Agent.wait, active, pending, addressed, settings]
      | some address =>
        rw [wait_active active pending addressed]
        simp [settings, AgentCore.elapse, addressed]
  · simp [Agent.wait, active]

/-- Waiting for a message that was not called off does nothing to the peers but exchange it. -/
theorem Holds.reach_wait (holds : agent.Holds reach message) {address : Address}
    (addressed : agent.address = some address) (noReply : Bool) :
    (Agent.wait noReply agent).2.link.reach =
      ((Link.exchange address message noReply).stateAfter agent.link).reach := by
  have driven := AgentCore.drive_state holds.uncanceled (Link.exchange address message noReply)
    agent.link
  rw [wait_active holds.active holds.pending addressed, ← driven]
  dsimp only
  split <;> rfl

/-- A message that was handed over is exchanged with the peer that the agent has when it is waited
for. -/
theorem carries_of_taken {agent sent : ObexAgent (Contacted π)} {data : Bytes}
    (anchored : agent.Anchored) (taken : (Agent.send data).on agent = (.ok (), sent))
    (parameters : ∀ call ∈ later, call.isParameter = true) (noReply : Bool) :
    ∃ address contacts, (Agent.after later agent).address = some address ∧
      (Agent.wait noReply (Agent.after later sent)).2.link.reach =
        ((Link.exchange address ⟨data, agent.core.contentType⟩ noReply).stateAfter
          (Agent.after later sent).link).reach ∧
      (Agent.wait noReply (Agent.after later sent)).2.link.reach.contacts =
        agent.link.reach.contacts ++ contacts ∧
      Carries (some address) (Agent.after later sent).link.connection.isSome
        ⟨data, agent.core.contentType⟩ noReply
        ((Agent.wait noReply (Agent.after later sent)).1 ∈ [.gotReply, .inactive]) contacts := by
  obtain ⟨sentHolds, same⟩ := holds_of_taken taken
  have sentAnchored : sent.Anchored := by
    have performed := anchored.perform (.send data)
    rwa [AgentCall.perform, stateAfter, taken] at performed
  have holds := sentHolds.after parameters
  have waiting := sentAnchored.after later
  obtain ⟨address, addressed⟩ := Option.isSome_iff_exists.1 (waiting.address holds.located)
  obtain ⟨-, contacts, since, carries⟩ :=
    waiting.wait_active holds.active holds.pending addressed noReply
  have named : (Agent.after later agent).address = some address := by
    rw [← addressed]
    exact (congrArg Settings.address (settings_after parameters same)).symm
  exact ⟨address, contacts, named, holds.reach_wait addressed noReply, holds.reach_eq ▸ since, carries⟩

end ObexAgent

end Obex

section Agents

open Obex Http

variable {γ π : Type} [Client γ] [Reach π]

/-- A message that was handed over is sent with the settings of then, whatever is set before it is waited
for, and what is set is for the next message.  Over HTTP this holds of all settings.  Over OBEX it holds
of the data and their type, but the message goes to the peer that was named last, so that it goes to the
one of then exactly if that is the same or none is reached. -/
theorem sent_as_handed_over {data : Bytes} {later : List AgentCall}
    (parameters : ∀ call ∈ later, call.isParameter = true) (noReply : Bool)
    {poster posting : HttpAgent γ} (taken : (Agent.send data).on poster = (.ok (), posting))
    (reach : π) (calls : List AgentCall) {putter putting : ObexAgent (Contacted π)}
    (reached : Agent.after calls (contacted reach) = putter)
    (accepted : (Agent.send data).on putter = (.ok (), putting)) :
    ((Agent.wait noReply posting).2.client =
        (Client.post (poster.request data)).stateAfter poster.client ∧
      Agent.wait noReply (Agent.after later posting) = ((Agent.wait noReply posting).1,
        (Agent.wait noReply posting).2.withSettings (Agent.after later poster).settings)) ∧
    (Agent.wait noReply (Agent.after later putting)).2.settings = (Agent.after later putter).settings ∧
    (Agent.wait noReply (Agent.after later putting)).2.plain Contacted.reach =
      Agent.after (calls ++ .send data :: later ++ [.wait noReply]) { link := { reach } } ∧
    ∃ address contacts, (Agent.after later putter).address = some address ∧
      (Agent.wait noReply (Agent.after later putting)).2.link.reach =
        ((Link.exchange address ⟨data, putter.core.contentType⟩ noReply).stateAfter
          (Agent.after later putting).link).reach ∧
      (Agent.wait noReply (Agent.after later putting)).2.link.reach.contacts =
        putter.link.reach.contacts ++ contacts ∧
      Carries (some address) (Agent.after later putting).link.connection.isSome
        ⟨data, putter.core.contentType⟩ noReply
        ((Agent.wait noReply (Agent.after later putting)).1 ∈ [.gotReply, .inactive]) contacts ∧
      ((∀ contact ∈ contacts, contact.address? = putter.address) ↔
        contacts = [] ∨ some address = putter.address) := by
  have anchored : putter.Anchored := by
    rw [← reached]
    exact (ObexAgent.anchored_contacted reach).after calls
  obtain ⟨-, same⟩ := ObexAgent.holds_of_taken accepted
  obtain ⟨address, contacts, named, exchanged, since, carries⟩ :=
    ObexAgent.carries_of_taken anchored accepted parameters noReply
  refine ⟨⟨HttpAgent.client_wait taken noReply, ?_⟩, ?_, ?_, address, contacts, named, exchanged, since,
    carries, carries.with_iff⟩
  · -- Handing over sets nothing, so that what is set afterwards is set as on the agent before it.
    have unset : posting.settings = poster.settings := by
      rw [HttpAgent.eq_of_taken taken]
      rfl
    rw [HttpAgent.after_parameters parameters unset, HttpAgent.wait_withSettings]
  · rw [ObexAgent.settings_wait]
    exact ObexAgent.settings_after parameters same
  · -- The list of contacts is forgotten at the end of the whole run only.
    have whole : Agent.after (calls ++ .send data :: later ++ [.wait noReply]) (contacted reach) =
        (Agent.wait noReply (Agent.after later putting)).2 := by
      have handedOver : (AgentCall.send data).perform putter = putting := congrArg Prod.snd accepted
      rw [Agent.after_append, Agent.after_append, reached,
        Agent.after_cons (.send data), handedOver]
      rfl
    rw [← whole]
    exact (ObexAgent.after_plain Contacted.recorded _ _).symm

def changes : List AgentCall :=
  [.setUrl "http://tablet", .setUrl "obex-tcp://tablet", .setContentType ContentType.wbxml]

def phonePoster : HttpAgent ScriptedClient :=
  { client := {}, core := { url := some "http://phone" } }

/-- Peers of which the first one takes a message of one packet and answers with nothing. -/
def taking : ScriptedReach :=
  { linking := .scripted [.ok [{ bytes := [0xA0, 0, 7, 0x10, 0, 0, 255] }, { bytes := [0xA0, 0, 3] },
      { bytes := [0xA0, 0, 3] }]] }

def phonePutter : ObexAgent (Contacted ScriptedReach) :=
  Agent.after [.setUrl "obex-tcp://phone"] (contacted taking)

theorem changed_messages_sent_as_handed_over :
    (Agent.wait false (Agent.after changes ((Agent.send [120]).stateAfter phonePoster))).2.client.journal =
      [.posted ⟨"http://phone", ContentType.xml, [120], none⟩] ∧
    ∃ connected, Carries (some (.tcp "tablet" 650)) connected ⟨[120], ContentType.xml⟩ false True
      (Agent.wait false (Agent.after changes
        ((Agent.send [120]).stateAfter phonePutter))).2.link.reach.contacts := by
  have parameters : ∀ call ∈ changes, call.isParameter = true := by decide
  have taken : (Agent.send [120]).on phonePoster =
      (.ok (), (Agent.send [120]).stateAfter phonePoster) := rfl
  have accepted : (Agent.send [120]).on phonePutter =
      (.ok (), (Agent.send [120]).stateAfter phonePutter) := rfl
  obtain ⟨⟨posted, same⟩, -, -, address, contacts, named, -, since, carries, -⟩ :=
    sent_as_handed_over parameters false taken taking [.setUrl "obex-tcp://phone"] rfl accepted
  have other : (Agent.after changes phonePutter).address = some (.tcp "tablet" 650) := by
    decide +kernel
  have settled : (Agent.wait false (Agent.after changes
      ((Agent.send [120]).stateAfter phonePutter))).1 = .gotReply := by decide +kernel
  constructor
  · rw [same]
    exact congrArg ScriptedClient.journal posted
  · cases named.symm.trans other
    replace since : (Agent.wait false (Agent.after changes
        ((Agent.send [120]).stateAfter phonePutter))).2.link.reach.contacts = contacts := since
    obtain ⟨packets, terms, count, sent, first, all⟩ := carries.packets
    rw [since]
    exact ⟨_, carries.address_eq, packets, terms, count, sent, first, fun _ => all (by simp [settled])⟩

/-- The peer that is named after a message was handed over gets it. -/
theorem message_taken_to_other_peer :
    phonePutter.address = some (.tcp "phone" 650) ∧
    ((Agent.send [120]).on phonePutter).1.isOk = true ∧
    (Agent.after [.send [120], .setUrl "obex-tcp://tablet", .wait false]
      phonePutter).link.reach.contacts.map Contact.address? =
        List.replicate 4 (some (.tcp "tablet" 650)) := by
  refine ⟨?_, rfl, ?_⟩ <;> decide +kernel

end Agents

end DataSync
