import DataSync.Http.Agent
import DataSync.Password
import DataSync.Session.Error
import DataSync.Session.Retry
import DataSync.Source.Mode
import DataSync.Storage.Node

/-!
# Configurations

With whom a session synchronizes, which sources take part and how, read from the properties of a node.
-/

namespace DataSync

/-- A source of a configuration. -/
structure SourceConfig where
  name : String
  mode : SyncMode := .twoWay
deriving DecidableEq

/-- With whom and how to synchronize. -/
structure SyncConfig where
  name : String
  url : String := ""
  username : String := ""
  password : String := ""
  proxy : Option Http.Proxy := none
  usesProxy : Bool := false
  tls : Http.TlsSettings := {}
  /-- Whether messages are in binary XML. -/
  wbxml : Bool := true
  retry : RetryPolicy := {}
  sources : List SourceConfig := []
  /-- The program that is the child of a local synchronization. -/
  helper : String := "syncevo-local-sync"
deriving DecidableEq

/-! ## From nodes -/

section Nodes

variable {ν : Type} [PropertyNode ν]

open PropertyNode (text? flag? duration?)

/-- The source of a name, with the mode in a node. -/
def SourceConfig.ofNode (name : String) (node : ν) : Except SyncError SourceConfig := do
  match ← (text? node "sync").mapError .storage with
  | none => return { name }
  | some word =>
    match SyncMode.ofName? word with
    | .ok mode => return { name, mode }
    | .error _ => throw (.storage (.invalidValue "sync" word "sync mode"))

/-- The proxy in a node. -/
def proxyOfNode (node : ν) : Except StorageError (Option Http.Proxy) := do
  match ← text? node "proxyHost" with
  | none => return none
  | some url =>
    match ← text? node "proxyUsername" with
    | none => return some { url }
    | some user =>
      let password := (← text? node "proxyPassword").getD ""
      return some { url, credentials := some ⟨user, password⟩ }

/-- The files in a list with colons between them. -/
def filesOfList (files : String) : List String :=
  (Text.splitAll ':' files.toList).filterMap fun file =>
    if file.isEmpty then none else some (String.ofList file)

/-- The check of the server in a node. -/
def tlsOfNode (node : ν) : Except StorageError Http.TlsSettings := do
  let verifyServer := (← flag? node "SSLVerifyServer").getD true
  let certificates := (← text? node "SSLServerCertificates").elim [] filesOfList
  return { verifyServer, certificates }

/-- The retries in a node. -/
def RetryPolicy.ofNode (node : ν) : Except StorageError RetryPolicy := do
  let usual : RetryPolicy := {}
  let budget := (← duration? node "RetryDuration").getD usual.budget
  let interval := (← duration? node "RetryInterval").getD usual.interval
  return { budget, interval }

/-- The configuration in a node, still without sources. -/
def SyncConfig.ofNode (node : ν) : Except SyncError SyncConfig :=
  Except.mapError .storage do
    let url := (← text? node "syncURL").getD ""
    let username := (← text? node "username").getD ""
    let password := (← text? node "password").getD ""
    let usesProxy := (← flag? node "useProxy").getD false
    let proxy ← proxyOfNode node
    let tls ← tlsOfNode node
    let wbxml := (← flag? node "WBXML").getD true
    let retry ← RetryPolicy.ofNode node
    return { name := PropertyNode.name node, url, username, password, proxy, usesProxy, tls, wbxml,
             retry }

end Nodes

/-! ## Questions to a configuration -/

namespace SyncConfig

/-- The mode of a source; one that is not configured goes both ways. -/
def modeFor (config : SyncConfig) (source : String) : SyncMode :=
  (config.sources.find? (·.name = source)).elim .twoWay (·.mode)

/-- The type of the messages. -/
def contentType (config : SyncConfig) : String :=
  if config.wbxml then ContentType.wbxml else ContentType.xml

/-- The proxy to use. -/
def effectiveProxy (config : SyncConfig) : Option Http.Proxy :=
  if config.usesProxy then config.proxy else none

/-- The password that stands for the wish to be asked for one. -/
def askedPassword : String := "-"

/-- The password, for which the person at the machine is asked if the configuration says so. -/
def resolvePassword {υ : Type} [UserInterface υ] (config : SyncConfig) :
    Action υ SyncError String :=
  if config.password = askedPassword then
    .of fun person =>
      let description := config.name ++ " account '" ++ config.username ++ "'"
      let key := PasswordKey.forUrl config.username config.url
      match (UserInterface.askPassword "password" description key : StateM υ _) person with
      | (some password, person) => (.ok password, person)
      | (none, person) => (.error (.authenticationFailed ("no password for " ++ config.name)), person)
  else return config.password

end SyncConfig

end DataSync
