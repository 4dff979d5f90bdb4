import DataSync.Rehearsal.Journal
import DataSync.Session.Surroundings
import DataSync.Transport.Agent

/-!
# Bare agents

An agent that keeps no rules: it settles every message as scripted, with whatever status, reply and
error the script says.  A session has to cope with such an agent, too.
-/

namespace DataSync

/-- How a message is settled, and what happens around the session while it is. -/
structure BareSettlement (η : Type) where
  status : TransportStatus
  reply : Option Message := none
  error : Option TransportError := none
  happenings : List η := []

/-- An agent that settles messages as scripted. -/
structure BareAgent (η : Type) where
  script : List (BareSettlement η) := []
  /-- How the next messages are refused, or not. -/
  refusals : List (Option TransportError) := []
  contentType : String := ContentType.xml
  status : TransportStatus := .inactive
  message : Option Message := none
  error : Option TransportError := none
  cancelRequested : Bool := false
  raised : List η := []
  journal : Journal := []

namespace BareAgent

variable {η : Type}

/-- The agent after one more note. -/
def note (entry : Note) (agent : BareAgent η) : BareAgent η :=
  { agent with journal := agent.journal ++ [entry] }

/-- The agent with a message settled. -/
def settle (agent : BareAgent η) : BareAgent η :=
  match agent.script with
  | [] => { agent with status := .failed, message := none, error := some .closed }
  | settlement :: script =>
    { agent with
      script
      status := settlement.status
      message := settlement.reply
      error := settlement.error
      raised := agent.raised ++ settlement.happenings }

instance : Agent (BareAgent η) where
  setUrl _ := pure ()
  setProxy _ agent := agent
  setProxyAuth _ _ agent := agent
  setContentType contentType agent := { agent with contentType }
  setTimeout timeout := note (.timeoutSet timeout)
  send data := .of fun agent =>
    let agent := agent.note (.given ⟨data, agent.contentType⟩)
    let taken := { agent with
      refusals := agent.refusals.tail, cancelRequested := false, status := .active }
    match agent.refusals with
    | some e :: refusals => (.error e, { agent with refusals })
    | _ => (.ok (), taken)
  cancel agent := { agent.note .canceled with status := .canceled }
  shutdown agent := { agent.note .shutDown with status := .closed }
  wait noReply agent :=
    let agent := agent.note (.waited noReply)
    let agent :=
      if agent.status = .canceled || agent.cancelRequested then { agent with status := .canceled }
      else agent.settle
    (agent.status, agent)
  reply agent := (agent.message.map Except.ok).getD (.error (.noReply agent.status))
  status agent := agent.status
  lastError agent := agent.error
  isCancelRequested agent := agent.cancelRequested
  requestCancel request agent := { agent with cancelRequested := request }
  waited _ := 0

instance : Surroundings (BareAgent η) η where
  happenings agent := (agent.raised, { agent with raised := [] })

end BareAgent

end DataSync
