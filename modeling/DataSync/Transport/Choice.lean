import DataSync.Transport.Agent

/-!
# Choices of agents

Which agent a session gets is known only when its configuration has been read.  One of two agents is
an agent again, and does what the one that it is does.
-/

namespace DataSync

namespace AgentChoice

variable {α β ε γ : Type}

/-- An operation on whichever of two states there is. -/
def act (first : Action α ε γ) (second : Action β ε γ) : Action (α ⊕ β) ε γ :=
  .of fun
    | .inl state => match first.on state with
      | (result, state) => (result, .inl state)
    | .inr state => match second.on state with
      | (result, state) => (result, .inr state)

/-- An operation that cannot fail on whichever of two states there is. -/
def tell (first : StateM α γ) (second : StateM β γ) : StateM (α ⊕ β) γ
  | .inl state => match first state with
    | (result, state) => (result, .inl state)
  | .inr state => match second state with
    | (result, state) => (result, .inr state)

end AgentChoice

open AgentChoice in
instance {α β : Type} [Agent α] [Agent β] : Agent (α ⊕ β) where
  setUrl url := act (Agent.setUrl url) (Agent.setUrl url)
  setProxy proxy := Sum.map (Agent.setProxy proxy) (Agent.setProxy proxy)
  setProxyAuth user password :=
    Sum.map (Agent.setProxyAuth user password) (Agent.setProxyAuth user password)
  setContentType contentType :=
    Sum.map (Agent.setContentType contentType) (Agent.setContentType contentType)
  setTimeout timeout := Sum.map (Agent.setTimeout timeout) (Agent.setTimeout timeout)
  send data := act (Agent.send data) (Agent.send data)
  cancel := Sum.map Agent.cancel Agent.cancel
  shutdown := Sum.map Agent.shutdown Agent.shutdown
  wait noReply := tell (Agent.wait noReply) (Agent.wait noReply)
  reply := Sum.elim Agent.reply Agent.reply
  status := Sum.elim Agent.status Agent.status
  lastError := Sum.elim Agent.lastError Agent.lastError
  isCancelRequested := Sum.elim Agent.isCancelRequested Agent.isCancelRequested
  requestCancel request := Sum.map (Agent.requestCancel request) (Agent.requestCancel request)
  waited := Sum.elim Agent.waited Agent.waited

end DataSync
