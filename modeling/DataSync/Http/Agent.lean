import DataSync.Text.Blank
import DataSync.Text.Lossy
import DataSync.Text.Split
import DataSync.Transport.Agent

/-!
# The HTTP agent

Each message is the body of a POST request, and the body of the response is the answer.  Any status
but 200 is a failure.
-/

namespace DataSync.Http

/-- Who asks a proxy. -/
structure Credentials where
  user : String
  password : String
deriving DecidableEq

/-- A proxy, and who asks it if it wants to know. -/
structure Proxy where
  url : String
  credentials : Option Credentials := none
deriving DecidableEq

/-- How the server of an encrypted connection is checked. -/
structure TlsSettings where
  verifyServer : Bool := true
  certificates : List String := []
deriving DecidableEq

/-- A POST request. -/
structure Request where
  url : String
  contentType : String
  body : Bytes
  proxy : Option Proxy
deriving DecidableEq

/-- The response to a request. -/
structure Response where
  status : Nat
  contentType : Option String
  body : Bytes
deriving DecidableEq

/-- A state that can post requests. -/
class Client (γ : Type) where
  post (request : Request) : Action γ Interruption Response

/-- An agent that posts messages to a URL. -/
structure HttpAgent (γ : Type) where
  client : γ
  core : AgentCore := {}
  proxy : Option Proxy := none
  pending : Option Request := none

/-- The octets of a refused response that its error shows. -/
def shownOctets : Nat := 200

/-- The answer in a response. -/
def Response.answer (response : Response) (fallbackType : String) (noReply : Bool) :
    Except Interruption (Option Message) :=
  if response.status ≠ 200 then
    .error (.failed (.httpStatus response.status (Text.lossy (response.body.take shownOctets))))
  else if noReply then .ok none
  else .ok (some ⟨response.body, response.contentType.getD fallbackType⟩)

/-- Whether a URL is one for HTTP, encrypted or not. -/
def isUrl (url : String) : Bool :=
  (Text.afterScheme? "http://" url.toList).isSome
    || (Text.afterScheme? "https://" url.toList).isSome

namespace HttpAgent

variable {γ : Type} [Client γ]

/-- Post a request and look at the response. -/
def transfer (request : Request) (noReply : Bool) : Action γ Interruption (Option Message) := do
  (← Client.post request).answer request.contentType noReply

/-- The proxy with another URL, asked by the same user. -/
def redirect (url : String) (proxy : Option Proxy) : Option Proxy :=
  if url = "" then none else some { url, credentials := proxy.bind (·.credentials) }

instance : Agent (HttpAgent γ) where
  setUrl url := .of fun agent =>
    if isUrl url then (.ok (), { agent with core := { agent.core with url := some url } })
    else (.error (.invalidUrl url "expected http:// or https://"), agent)
  setProxy url agent := { agent with proxy := redirect url agent.proxy }
  setProxyAuth user password agent :=
    { agent with
      proxy := agent.proxy.map fun proxy => { proxy with credentials := some ⟨user, password⟩ } }
  setContentType contentType agent := { agent with core := { agent.core with contentType } }
  setTimeout timeout agent := { agent with core := agent.core.setTimeout timeout }
  send data := .of fun agent =>
    match agent.core.beginSend true with
    | .error e => (.error e, agent)
    | .ok core =>
      let pending : Request :=
        { url := core.url.getD "", contentType := core.contentType, body := data,
          proxy := agent.proxy }
      (.ok (), { agent with core, pending := some pending })
  cancel agent :=
    if agent.core.status = .active then
      { agent with core := agent.core.canceled, pending := none }
    else agent
  shutdown agent := { agent with core := agent.core.closed, pending := none }
  wait noReply agent :=
    if agent.core.status ≠ .active then (agent.core.status, agent)
    else match agent.pending with
      | none =>
        let core := agent.core.finish .canceled
        (core.status, { agent with core })
      | some request =>
        let (outcome, time, client) := agent.core.drive (transfer request noReply) agent.client
        let core := (agent.core.elapse time).finish outcome
        (core.status, { agent with client, core, pending := none })
  reply agent := agent.core.answer
  status agent := agent.core.status
  lastError agent := agent.core.lastError
  isCancelRequested agent := agent.core.cancelRequested
  requestCancel request agent :=
    { agent with core := { agent.core with cancelRequested := request } }
  waited agent := agent.core.waited

end HttpAgent

end DataSync.Http
