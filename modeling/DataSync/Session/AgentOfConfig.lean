import DataSync.Local.Agent
import DataSync.Obex.Agent
import DataSync.Session.LocalTarget
import DataSync.Transport.Choice

/-!
# The agent of a configuration

The scheme of the URL says which agent carries the messages of a session.  Schemes are recognized in
any case, except that of local URLs.
-/

namespace DataSync

/-- An agent over HTTP, over OBEX, or to a child. -/
abbrev PeerAgent (γ π μ : Type) :=
  Http.HttpAgent γ ⊕ Obex.ObexAgent π ⊕ Local.LocalAgent μ

namespace SyncConfig

variable {γ π μ : Type} [Http.Client γ] [Obex.Reach π] [Local.Machine μ]

/-- The scheme of a URL in lower case, or an empty text if there is none. -/
def scheme (url : String) : String :=
  match Text.splitAtText? "://".toList url.toList with
  | some (scheme, _) => Text.lowerAscii (String.ofList scheme)
  | none => ""

/-- The agent over HTTP, with the proxy of a configuration. -/
def httpAgent (config : SyncConfig) (client : γ) : Http.HttpAgent γ :=
  let agent : Http.HttpAgent γ := { client }
  match config.effectiveProxy with
  | none => agent
  | some proxy =>
    let agent := Agent.setProxy proxy.url agent
    match proxy.credentials with
    | some credentials => Agent.setProxyAuth credentials.user credentials.password agent
    | none => agent

/-- The agent to a child that is told to synchronize the context in the URL. -/
def localAgent (config : SyncConfig) (machine : Local.StartSync → μ) :
    Except SyncError (Local.LocalAgent μ) := do
  let start := config.localRequest (← localContext config.url)
  return { link := { machine := machine start }, start }

/-- The agent of a configuration without its URL.  It gets a client for the given settings, peers
within reach, or a machine for the child. -/
def bareAgent (config : SyncConfig) (client : Http.TlsSettings → Except TransportError γ)
    (reach : π) (machine : Local.StartSync → μ) : Except SyncError (PeerAgent γ π μ) :=
  match scheme config.url with
  | "http" | "https" => do
    let client ← (client config.tls).mapError .ofTransport
    return .inl (config.httpAgent client)
  | "obex-bt" | "obex-tcp" => return .inr (.inl { link := { reach } })
  | _ =>
    if localScheme.toList.isPrefixOf config.url.toList then do
      return .inr (.inr (← config.localAgent machine))
    else
      throw (.config (config.url
        ++ ": unsupported sync URL, expected http(s)://, obex-bt://, obex-tcp:// or local://"))

/-- The agent of a configuration. -/
def agent (config : SyncConfig) (client : Http.TlsSettings → Except TransportError γ)
    (reach : π) (machine : Local.StartSync → μ) : Except SyncError (PeerAgent γ π μ) := do
  let agent ← config.bareAgent client reach machine
  match (Agent.setUrl config.url).on agent with
  | (.ok (), agent) => return agent
  | (.error e, _) => throw (.ofTransport e)

end SyncConfig

end DataSync
