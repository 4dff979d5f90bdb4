import DataSync.Proofs.Local.OneChild
import DataSync.Proofs.Transport.HandedOver
import Mathlib.Data.List.Induction

/-!
# Calling off

A message that is called off after it was handed over and before it is waited for stays with the agent:
nobody on the other side is told of it, whatever the agent would have done first, and the next message
is not held back.
-/

namespace DataSync

open Accountable DataSync.Action

namespace AgentCall

/-- Whether a call leaves it open what becomes of the message under way. -/
def isAside : AgentCall → Bool
  | cancel | wait _ | shutdown => false
  | _ => true

/-- What a call says of calling off. -/
def request? : AgentCall → Option Bool
  | requestCancel request => some request
  | _ => none

end AgentCall

variable {α β : Type} [Agent α]

/-- An agent with a message under way that is to be called off. -/
structure Agent.CalledOff (agent : α) : Prop where
  active : Agent.status agent = .active
  requested : Agent.isCancelRequested agent = true

/-- An agent that withholds the messages that were called off before it was waited for, given what the
other side was told. -/
structure Withholds (told : α → β) (agent : α) : Prop where
  /-- A request to call off the message under way stays until it is waited for. -/
  stays : ∀ {calls later : List AgentCall}, Agent.status (Agent.after calls agent) = .active →
    (∀ call ∈ later, call.isAside = true ∧ call ≠ .requestCancel false) →
    Agent.CalledOff (Agent.after (calls ++ .requestCancel true :: later) agent)
  canceled : ∀ {calls : List AgentCall} (noReply : Bool),
    Agent.CalledOff (Agent.after calls agent) →
      (Agent.wait noReply (Agent.after calls agent)).1 = .canceled
  /-- The other side is told nothing between handing over and the end of waiting. -/
  untold : ∀ {calls : List AgentCall}, Agent.CalledOff (Agent.after calls agent) →
    ∃ earlier data meanwhile, calls = earlier ++ .send data :: meanwhile ∧
      ((Agent.send data).on (Agent.after earlier agent)).1 = .ok () ∧
      (∀ call ∈ meanwhile, call.isAside = true) ∧
      ∀ noReply, told (Agent.wait noReply (Agent.after calls agent)).2 =
        told (Agent.after earlier agent)
  unanswered : ∀ {calls : List AgentCall} (noReply : Bool),
    Agent.CalledOff (Agent.after calls agent) →
      Agent.reply (Agent.wait noReply (Agent.after calls agent)).2 = .error (.noReply .canceled)
  /-- The next message is not called off with this one. -/
  cleared : ∀ {calls later : List AgentCall} (noReply : Bool) {data : Bytes} {sent : α},
    Agent.CalledOff (Agent.after calls agent) →
      (Agent.send data).on (Agent.after (calls ++ .wait noReply :: later) agent) = (.ok (), sent) →
      Agent.isCancelRequested sent = false

/-! ## Laws -/

/-- An agent that tells the other side nothing but while it waits or shuts down, and nothing while it
waits for a message that is to be called off.  The latter may need what all calls keep. -/
structure Reserved [Accountable α] (told : α → β) (Kept : α → Prop) : Prop where
  keeps : ∀ agent (call : AgentCall), Kept agent → Kept (call.perform agent)
  isCancelRequested_eq : ∀ agent : α, Agent.isCancelRequested agent = (core agent).cancelRequested
  setting : ∀ {call : AgentCall} (agent : α), call.isSetting = true →
    told (call.perform agent) = told agent ∧
      Agent.isCancelRequested (call.perform agent) =
        call.request?.getD (Agent.isCancelRequested agent)
  send : ∀ {data : Bytes} {agent after : α},
    (Agent.send data).on agent = (.ok (), after) → told after = told agent
  wait : ∀ {agent : α} (noReply : Bool), Kept agent → (core agent).status = .active →
    isPending agent = true → (core agent).cancelRequested = true →
    settle noReply agent = .canceled ∧ told (Agent.wait noReply agent).2 = told agent

section Laws

variable [Accountable α] [LawfulAgent α] {agent : α} {call : AgentCall} {told : α → β}
  {Kept : α → Prop}

namespace LawfulAgent

/-- A message that comes while another one is under way is refused. -/
theorem send_active (active : Agent.status agent = .active) (data : Bytes) :
    (AgentCall.send data).perform agent = agent := by
  rcases sent : (Agent.send data).on agent with ⟨e | ⟨⟨⟩⟩, after⟩
  · exact perform_send_of_error sent
  · have canSend := (send_ok sent).1
    rw [← status_eq, active] at canSend
    cases canSend

/-- While a message is under way, a call that leaves open what becomes of it sets something or does
nothing. -/
theorem aside_cases (active : Agent.status agent = .active) (aside : call.isAside = true) :
    call.isSetting = true ∨ call.request? = none ∧ call.perform agent = agent := by
  cases call with
  | send data => exact .inr ⟨rfl, send_active active data⟩
  | cancel | wait | shutdown => cases aside
  | _ => exact .inl rfl

/-- A message is under way if it was taken just now, or was under way and left alone. -/
theorem active_perform (active : Agent.status (call.perform agent) = .active) :
    (∃ data, call = .send data ∧ ((Agent.send data).on agent).1 = .ok ()) ∨
      Agent.status agent = .active ∧ call.isAside = true := by
  have leads := leads call agent
  rw [active] at leads
  cases call with
  | send data =>
    obtain ⟨canSend, -⟩ | same := leads
    · rcases sent : (Agent.send data).on agent with ⟨e | ⟨⟨⟩⟩, after⟩
      · -- A message that was refused cannot have changed the status.
        rw [perform_send_of_error sent] at active
        exact .inr ⟨active, rfl⟩
      · exact .inl ⟨data, rfl, congrArg Prod.fst sent⟩
    · exact .inr ⟨same.symm, rfl⟩
  | cancel =>
    by_cases before : Agent.status agent = .active <;> simp [AgentCall.Leads, before] at leads
    exact absurd leads.symm before
  | wait noReply =>
    by_cases before : Agent.status agent = .active <;> simp [AgentCall.Leads, before] at leads
    exact absurd leads.symm before
  | shutdown => cases leads
  | _ => exact .inr ⟨leads.symm, rfl⟩

end LawfulAgent

namespace Reserved

variable (reserved : Reserved told Kept)

include reserved

/-- What is called for while a message is under way tells the other side nothing and leaves the request
to call off as it is, unless the call is about that. -/
theorem aside (active : Agent.status agent = .active) (isAside : call.isAside = true) :
    told (call.perform agent) = told agent ∧
      Agent.isCancelRequested (call.perform agent) =
        call.request?.getD (Agent.isCancelRequested agent) := by
  obtain isSetting | ⟨unconcerned, same⟩ := LawfulAgent.aside_cases active isAside
  · exact reserved.setting agent isSetting
  · rw [same, unconcerned]
    exact ⟨rfl, rfl⟩

theorem calledOff_perform (calledOff : Agent.CalledOff agent) (isAside : call.isAside = true)
    (notTakenBack : call ≠ .requestCancel false) : Agent.CalledOff (call.perform agent) := by
  obtain ⟨active, requested⟩ := calledOff
  refine ⟨?_, ?_⟩
  · obtain isSetting | ⟨-, same⟩ := LawfulAgent.aside_cases active isAside
    · rw [LawfulAgent.status_eq, (LawfulAgent.setting agent isSetting).1, ← LawfulAgent.status_eq,
        active]
    · rw [same, active]
  · rw [(reserved.aside active isAside).2, requested]
    cases call with
    | requestCancel request => cases request <;> simp [AgentCall.request?] at notTakenBack ⊢
    | _ => rfl

theorem calledOff_after {later : List AgentCall} (calledOff : Agent.CalledOff agent)
    (asides : ∀ call ∈ later, call.isAside = true ∧ call ≠ .requestCancel false) :
    Agent.CalledOff (Agent.after later agent) := by
  induction later generalizing agent with
  | nil => exact calledOff
  | cons call more inductionHypothesis =>
    obtain ⟨⟨isAside, notTakenBack⟩, others⟩ := List.forall_mem_cons.1 asides
    exact inductionHypothesis (reserved.calledOff_perform calledOff isAside notTakenBack) others

/-- The message under way was taken by the last of the calls that took one, and the other side was told
nothing since. -/
theorem exists_taken (idle : Agent.status agent ≠ .active) (calls : List AgentCall)
    (active : Agent.status (Agent.after calls agent) = .active) :
    ∃ earlier data meanwhile, calls = earlier ++ .send data :: meanwhile ∧
      ((Agent.send data).on (Agent.after earlier agent)).1 = .ok () ∧
      (∀ call ∈ meanwhile, call.isAside = true) ∧
      told (Agent.after calls agent) = told (Agent.after earlier agent) := by
  -- From the end of the calls backwards, since the latest message is the one that counts.
  induction calls using List.reverseRecOn with
  | nil => exact absurd active idle
  | append_singleton calls call inductionHypothesis =>
    rw [Agent.after_append] at active ⊢
    obtain ⟨data, rfl, taken⟩ | ⟨before, isAside⟩ := LawfulAgent.active_perform active
    · refine ⟨calls, data, [], rfl, taken, by simp, ?_⟩
      exact reserved.send (Prod.ext taken rfl)
    · obtain ⟨earlier, data, meanwhile, rfl, taken, asides, same⟩ := inductionHypothesis before
      refine ⟨earlier, data, meanwhile ++ [call], by simp, taken, ?_, ?_⟩
      · exact List.forall_mem_append.2 ⟨asides, List.forall_mem_singleton.2 isAside⟩
      · exact (reserved.aside before isAside).1.trans same

/-- A reserved agent that was not used yet withholds what is called off in time. -/
theorem withholds (unused : core agent = {}) (idle : isPending agent = false) (kept : Kept agent) :
    Withholds told agent := by
  have inactive : Agent.status agent ≠ .active := by simp [LawfulAgent.status_eq, unused]
  -- Waiting for a message that is to be called off ends the transfer before it starts.
  have waits (calls : List AgentCall) (noReply : Bool)
      (calledOff : Agent.CalledOff (Agent.after calls agent)) :
      settle noReply (Agent.after calls agent) = .canceled ∧
        told (Agent.wait noReply (Agent.after calls agent)).2 = told (Agent.after calls agent) := by
    obtain ⟨active, requested⟩ := calledOff
    refine reserved.wait noReply (Agent.keeps_after reserved.keeps kept calls) ?_ ?_ ?_
    · rw [← LawfulAgent.status_eq, active]
    · exact ((LawfulAgent.orderly unused idle).isPending_iff calls).2 active
    · rw [← reserved.isCancelRequested_eq, requested]
  have canceled (calls : List AgentCall) (noReply : Bool)
      (calledOff : Agent.CalledOff (Agent.after calls agent)) :
      (Agent.wait noReply (Agent.after calls agent)).1 = .canceled := by
    rw [(LawfulAgent.orderly unused idle).settled calls noReply calledOff.active,
      (waits calls noReply calledOff).1]
    rfl
  refine
    { stays := fun {calls later} active asides => ?_
      canceled := fun noReply => canceled _ noReply
      untold := fun {calls} calledOff => ?_
      unanswered := fun {calls} noReply calledOff => ?_
      cleared := fun noReply _ _ _ taken => ?_ }
  · have isSetting : (AgentCall.requestCancel true).isSetting = true := rfl
    have requested : Agent.CalledOff
        ((AgentCall.requestCancel true).perform (Agent.after calls agent)) := by
      refine ⟨?_, (reserved.setting _ isSetting).2⟩
      rw [LawfulAgent.status_eq, (LawfulAgent.setting _ isSetting).1, ← LawfulAgent.status_eq, active]
    rw [Agent.after_append, Agent.after_cons]
    exact reserved.calledOff_after requested asides
  · obtain ⟨earlier, data, meanwhile, split, taken, asides, same⟩ :=
      reserved.exists_taken inactive calls calledOff.active
    refine ⟨earlier, data, meanwhile, split, taken, asides, fun noReply => ?_⟩
    rw [(waits calls noReply calledOff).2, same]
  · have status := canceled calls noReply calledOff
    rw [LawfulAgent.wait_status, LawfulAgent.status_eq] at status
    rw [LawfulAgent.reply_eq, AgentCore.answer, status]
  · rw [reserved.isCancelRequested_eq, (LawfulAgent.send_ok taken).2.1]
    rfl

end Reserved

end Laws

/-- A transfer that is to be called off does not start. -/
theorem AgentCore.drive_canceled {σ γ : Type} {core : AgentCore}
    (requested : core.cancelRequested = true) (transfer : Action σ Interruption γ) (s : σ) :
    core.drive transfer s = (.canceled, 0, s) :=
  if_pos requested

/-! ## The agents -/

theorem Http.HttpAgent.reserved {γ : Type} [Client γ] :
    Reserved (HttpAgent.client (γ := γ)) (fun _ => True) where
  keeps _ _ _ := trivial
  isCancelRequested_eq _ := rfl
  setting {call} agent isSetting := by
    cases call with
    | setUrl url =>
      by_cases valid : isUrl url <;>
        simp [AgentCall.perform, Agent.setUrl, stateAfter, valid, Agent.isCancelRequested,
          AgentCall.request?]
    | send | cancel | wait | shutdown => cases isSetting
    | _ => exact ⟨rfl, rfl⟩
  send taken := by rw [eq_of_taken taken]
  wait {agent} noReply _ active pending requested := by
    obtain ⟨request, pending⟩ := Option.isSome_iff_exists.1 pending
    have undone := AgentCore.drive_canceled requested (transfer request noReply) agent.client
    constructor
    · simp only [settle, pending]
      exact congrArg Prod.fst undone
    · have undone' : agent.core.drive (transfer request noReply) agent.client = _ := undone
      rw [wait_active active pending, undone']

namespace Obex.ObexAgent

variable {π : Type} {agent : ObexAgent π}

/-- An agent that has an address if it has a URL, as it must have for a message. -/
structure Located (agent : ObexAgent π) : Prop where
  address : agent.core.url.isSome = true → agent.address.isSome = true
  url : agent.core.status = .active → agent.core.url.isSome = true

/-- An agent is located as long as it keeps its URL and its address and takes no message. -/
theorem Located.of_settings {after : ObexAgent π} (located : agent.Located)
    (same : after.settings = agent.settings)
    (active : after.core.status = .active → agent.core.status = .active) : after.Located := by
  obtain ⟨url, -, -, address⟩ := Settings.mk.injEq .. ▸ same
  refine ⟨?_, fun sent => ?_⟩
  · rw [url, address]
    exact located.address
  · rw [url]
    exact located.url (active sent)

variable [Reach π]

theorem Located.perform (located : agent.Located) (call : AgentCall) :
    Located (call.perform agent) := by
  cases call with
  | setUrl url =>
    simp only [AgentCall.perform, stateAfter, Agent.setUrl, on_of]
    split
    · exact located
    · exact ⟨fun _ => rfl, fun _ => rfl⟩
  | send data =>
    rcases sent : (Agent.send data).on agent with ⟨e | ⟨⟨⟩⟩, after⟩
    · rw [LawfulAgent.perform_send_of_error sent]
      exact located
    · obtain ⟨holds, same⟩ := holds_of_taken sent
      obtain ⟨url, -, -, address⟩ := Settings.mk.injEq .. ▸ same
      rw [AgentCall.perform_send_of_ok sent]
      refine ⟨?_, fun _ => holds.located⟩
      rw [url, address]
      exact located.address
  | cancel =>
    simp only [AgentCall.perform, Agent.cancel]
    split
    · exact located.of_settings rfl fun active => by cases active
    · exact located
  | wait noReply =>
    refine located.of_settings (settings_wait noReply agent) fun active => ?_
    replace active : Agent.status ((AgentCall.wait noReply).perform agent) = .active := active
    obtain ⟨data, sends, -⟩ | ⟨-, isAside⟩ := LawfulAgent.active_perform active
    · cases sends
    · cases isAside
  | shutdown => exact located.of_settings rfl fun active => by cases active
  | setProxy | setProxyAuth | setContentType | setTimeout | requestCancel | reply =>
    exact ⟨located.address, located.url⟩

theorem reserved : Reserved (fun agent : ObexAgent π => agent.link.reach) Located where
  keeps _ call located := located.perform call
  isCancelRequested_eq _ := rfl
  setting {call} agent isSetting := by
    cases call with
    | setUrl url =>
      simp only [AgentCall.perform, stateAfter, Agent.setUrl, on_of]
      split
      · exact ⟨rfl, rfl⟩
      · -- Even if the connection is dropped, nobody is told.
        refine ⟨?_, rfl⟩
        dsimp only
        split <;> rfl
    | send | cancel | wait | shutdown => cases isSetting
    | _ => exact ⟨rfl, rfl⟩
  send taken := (holds_of_taken taken).1.reach_eq
  wait {agent} noReply located active pending requested := by
    obtain ⟨message, pending⟩ := Option.isSome_iff_exists.1 pending
    obtain ⟨address, addressed⟩ := Option.isSome_iff_exists.1 (located.address (located.url active))
    have undone : agent.core.drive (Link.exchange address message noReply) agent.link = _ :=
      AgentCore.drive_canceled requested (Link.exchange address message noReply) agent.link
    constructor
    · simp only [settle, pending, addressed]
      exact congrArg Prod.fst undone
    · rw [wait_active active pending addressed, undone]
      rfl

end Obex.ObexAgent

namespace Local

variable {π : Type} [Machine π]

/-- To kill a child neither starts one nor says anything to it. -/
theorem Link.record_kill (link : Link (Watched π)) :
    link.kill.machine.spawned = link.machine.spawned ∧
      link.kill.machine.written = link.machine.written := by
  unfold Link.kill
  split
  · exact ⟨rfl, rfl⟩
  · simp only [Machine.reap, stateAfter, on_within]
    exact ⟨rfl, rfl⟩

theorem LocalAgent.reserved :
    Reserved (fun agent : LocalAgent (Watched π) =>
      (agent.link.machine.spawned, agent.link.machine.written)) (fun _ => True) where
  keeps _ _ _ := trivial
  isCancelRequested_eq _ := rfl
  setting {call} agent isSetting := by
    cases call with
    | send | cancel | wait | shutdown => cases isSetting
    | _ => exact ⟨rfl, rfl⟩
  send {data agent after} taken := by
    simp only [Agent.send, on_of] at taken
    split at taken
    · cases taken
    · obtain ⟨-, rfl⟩ := AgentCore.eq_take_of_taken taken
      rfl
  wait {agent} noReply _ active pending requested := by
    obtain ⟨message, pending⟩ := Option.isSome_iff_exists.1 pending
    have undone : agent.core.drive (Link.exchange agent.start message noReply) agent.link = _ :=
      AgentCore.drive_canceled requested (Link.exchange agent.start message noReply) agent.link
    obtain ⟨spawned, written⟩ := agent.link.record_kill
    constructor
    · simp only [settle, pending]
      exact congrArg Prod.fst undone
    · rw [wait_active active pending, undone]
      exact Prod.ext spawned written

end Local

theorem ScriptedAgent.reserved {η : Type} :
    Reserved (ScriptedAgent.script (η := η)) (fun _ => True) where
  keeps _ _ _ := trivial
  isCancelRequested_eq _ := rfl
  setting {call} agent isSetting := by
    cases call with
    | send | cancel | wait | shutdown => cases isSetting
    | _ => exact ⟨rfl, rfl⟩
  send taken := by
    obtain ⟨-, rfl⟩ := AgentCore.eq_take_of_taken taken
    rfl
  wait {agent} noReply _ active _ requested := by
    have undone : agent.core.drive (takeAnswer noReply) agent.script = _ :=
      AgentCore.drive_canceled requested (takeAnswer noReply) agent.script
    replace active : agent.core.status = .active := active
    constructor
    · exact congrArg Prod.fst undone
    · simp [Agent.wait, active, undone]

/-- A message that is called off before it is waited for is not sent: over HTTP nothing is posted, over
OBEX nobody is contacted, no child is started or told anything, and of a script no answer is taken. -/
theorem called_off_messages_withheld :
    (∀ (γ : Type) [Http.Client γ] (client : γ),
      Withholds Http.HttpAgent.client ({ client } : Http.HttpAgent γ)) ∧
    (∀ (π : Type) [Obex.Reach π] (reach : π),
      Withholds (fun agent => agent.link.reach) ({ link := { reach } } : Obex.ObexAgent π)) ∧
    (∀ (π : Type) [Local.Machine π] (machine : π) (start : Local.StartSync),
      Withholds (fun agent => (agent.link.machine.spawned, agent.link.machine.written))
        (Local.LocalAgent.watched machine start) ∧
      ∀ calls, (Agent.after calls (Local.LocalAgent.watched machine start)).plain
        Local.Watched.machine = Agent.after calls { link := { machine }, start }) ∧
    ∀ (η : Type) (script : List ScriptedAnswer) (hooks : List (Nat × η)),
      Withholds ScriptedAgent.script ({ script, hooks } : ScriptedAgent η) := by
  refine ⟨fun _ _ _ => ?_, fun _ _ _ => ?_, fun _ _ _ _ => ⟨?_, fun calls => ?_⟩, fun _ _ _ => ?_⟩
  · exact Http.HttpAgent.reserved.withholds rfl rfl trivial
  · exact Obex.ObexAgent.reserved.withholds rfl rfl ⟨nofun, nofun⟩
  · exact Local.LocalAgent.reserved.withholds rfl rfl trivial
  · exact (Local.LocalAgent.after_plain Local.Watched.recorded calls _).symm
  · exact ScriptedAgent.reserved.withholds rfl rfl trivial

/-- The calls that get one message to a peer on the phone and call off the next one. -/
def secondCalledOff : List AgentCall :=
  [.setUrl "obex-tcp://phone", .send [120], .wait false, .send [121], .requestCancel true]

/-- An agent whose message was called off after another one got to the peer. -/
def secondPut : Obex.ObexAgent ScriptedReach :=
  Agent.after secondCalledOff { link := { reach := taking } }

/-- An agent whose message was called off after another one got to a child, which answers all of
them. -/
def secondPassed : Local.LocalAgent (Local.Watched ProgramMachine) :=
  Agent.after secondCalledOff
    (Local.LocalAgent.watched { child := .ofSteps [.ready, .start, .shout] } {})

/-- The second message is withheld from a peer with a connection and from a child that runs. -/
theorem second_message_withheld :
    (secondPut.link.connection.isSome = true ∧
      (Agent.wait false secondPut).1 = .canceled ∧
      (Agent.wait false secondPut).2.link.reach.journal.length = 4) ∧
    secondPassed.isChildRunning = true ∧
      (Agent.wait true secondPassed).1 = .canceled ∧
      (Agent.wait true secondPassed).2.link.machine.written.length = 2 := by
  obtain ⟨-, peers, children, -⟩ := called_off_messages_withheld
  unfold secondPut secondPassed
  have putCalledOff : Agent.CalledOff
      (Agent.after secondCalledOff ({ link := { reach := taking } } : Obex.ObexAgent ScriptedReach)) :=
    ⟨by decide +kernel, by decide +kernel⟩
  have passedCalledOff : Agent.CalledOff (Agent.after secondCalledOff
      (Local.LocalAgent.watched { child := .ofSteps [.ready, .start, .shout] : ProgramMachine } {})) :=
    ⟨by decide +kernel, by decide +kernel⟩
  have put := (peers ScriptedReach taking).canceled false putCalledOff
  have passed := (children ProgramMachine _ {}).1.canceled true passedCalledOff
  refine ⟨⟨?_, put, ?_⟩, ?_, passed, ?_⟩ <;> decide +kernel

end DataSync
