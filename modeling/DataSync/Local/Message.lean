import DataSync.Cbor.Record
import DataSync.Password
import DataSync.Transport.Message

/-!
# Messages between parent and child

A local synchronization runs its other side in a child.  The parent tells it what to synchronize and
carries protocol messages to it; the child answers them, asks for passwords, and reports how it ended.
-/

namespace DataSync.Local

/-- A source that the child shall synchronize, with the name of the mode. -/
structure SourceRequest where
  name : String
  mode : String
deriving DecidableEq

/-- What the child shall synchronize, and for whom. -/
structure StartSync where
  config : String := ""
  parentConfig : String := ""
  sources : List SourceRequest := []
  username : String := ""
  password : String := ""
deriving DecidableEq

/-- A message to the child. -/
inductive ParentMessage where
  | startSync (start : StartSync)
  | message (message : Message)
  | passwordResponse (password : Option String)
  | savePasswordResponse (saved : Bool)
deriving DecidableEq

/-- How the child ended; status zero is success. -/
structure ChildReport where
  status : UInt32 := 0
  error : Option String := none
deriving DecidableEq

/-- A message from the child. -/
inductive ChildMessage where
  | ready
  | reply (message : Message)
  | askPassword (name description : String) (key : PasswordKey)
  | savePassword (name password : String) (key : PasswordKey)
  | report (report : ChildReport)
deriving DecidableEq

/-- Whether the child says that all went well. -/
def ChildReport.isSuccess (report : ChildReport) : Bool :=
  report.status = 0

/-- The name of the kind of a message. -/
def ParentMessage.kind : ParentMessage → String
  | startSync _ => "StartSync"
  | message _ => "Message"
  | passwordResponse _ => "PasswordResponse"
  | savePasswordResponse _ => "SavePasswordResponse"

/-- The name of the kind of a message. -/
def ChildMessage.kind : ChildMessage → String
  | ready => "Ready"
  | reply _ => "Reply"
  | askPassword .. => "AskPassword"
  | savePassword .. => "SavePassword"
  | report _ => "Report"

/-! ## As values -/

open Cbor (Value)

/-- A text as a value. -/
def textValue (content : String) : Value := .text true content

def SourceRequest.toValue (source : SourceRequest) : Value :=
  .record [("name", textValue source.name), ("mode", textValue source.mode)]

def StartSync.toValue (start : StartSync) : Value :=
  .record [("config", textValue start.config), ("parent_config", textValue start.parentConfig),
    ("sources", .array (start.sources.map SourceRequest.toValue)),
    ("username", textValue start.username), ("password", textValue start.password)]

def messageValue (message : Message) : Value :=
  .record [("content_type", textValue message.contentType), ("data", .bytes message.data)]

def keyValue (key : PasswordKey) : Value :=
  .record [("user", textValue key.user), ("server", textValue key.server),
    ("domain", textValue key.domain), ("object", textValue key.object),
    ("protocol", textValue key.protocol), ("authtype", textValue key.authtype),
    ("port", .unsigned key.port.toNat)]

def ChildReport.toValue (report : ChildReport) : Value :=
  .record [("status", .unsigned report.status.toNat), ("error", .textOrNull report.error)]

/-- The content of a message to the child as a value. -/
def ParentMessage.content : ParentMessage → Value
  | startSync start => start.toValue
  | message m => messageValue m
  | passwordResponse password => .record [("password", .textOrNull password)]
  | savePasswordResponse saved => .record [("saved", .bool saved)]

/-- The content of a message from the child as a value, unless it has none. -/
def ChildMessage.content : ChildMessage → Option Value
  | ready => none
  | reply m => some (messageValue m)
  | askPassword name description key =>
    some (.record [("name", textValue name), ("description", textValue description),
      ("key", keyValue key)])
  | savePassword name password key =>
    some (.record [("name", textValue name), ("password", textValue password),
      ("key", keyValue key)])
  | report r => some r.toValue

/-- A message to the child as a value. -/
def ParentMessage.toValue (message : ParentMessage) : Value :=
  .record [(message.kind, message.content)]

/-- A message from the child as a value. -/
def ChildMessage.toValue (message : ChildMessage) : Value :=
  match message.content with
  | none => textValue message.kind
  | some content => .record [(message.kind, content)]

/-! ## From values -/

open Cbor (field optionalText)

def SourceRequest.ofValue? (value : Value) : Option SourceRequest := do
  let fields ← value.untagged.record? ["name", "mode"]
  return { name := ← (← field fields "name").text?, mode := ← (← field fields "mode").text? }

def StartSync.ofValue? (value : Value) : Option StartSync := do
  let fields ← value.untagged.record?
    ["config", "parent_config", "sources", "username", "password"]
  return {
    config := ← (← field fields "config").text?
    parentConfig := ← (← field fields "parent_config").text?
    sources := ← (← field fields "sources").list? SourceRequest.ofValue?
    username := ← (← field fields "username").text?
    password := ← (← field fields "password").text? }

def messageOfValue? (value : Value) : Option Message := do
  let fields ← value.record? ["content_type", "data"]
  return {
    contentType := ← (← field fields "content_type").text?
    data := ← (← field fields "data").bytes? }

def keyOfValue? (value : Value) : Option PasswordKey := do
  let fields ← value.untagged.record?
    ["user", "server", "domain", "object", "protocol", "authtype", "port"]
  return {
    user := ← (← field fields "user").text?
    server := ← (← field fields "server").text?
    domain := ← (← field fields "domain").text?
    object := ← (← field fields "object").text?
    protocol := ← (← field fields "protocol").text?
    authtype := ← (← field fields "authtype").text?
    port := UInt16.ofNat (← (← field fields "port").number? 65536) }

def ChildReport.ofValue? (value : Value) : Option ChildReport := do
  let fields ← value.untagged.record? ["status", "error"]
  return {
    status := UInt32.ofNat (← (← field fields "status").number? 4294967296)
    error := ← optionalText fields "error" }

/-- The message to the child with a kind and a content. -/
def ParentMessage.ofContent? (kind : String) (content : Value) : Option ParentMessage :=
  match kind with
  | "StartSync" => (StartSync.ofValue? content).map startSync
  | "Message" => (messageOfValue? content).map message
  | "PasswordResponse" => do
    return passwordResponse (← optionalText (← content.record? ["password"]) "password")
  | "SavePasswordResponse" => do
    return savePasswordResponse (← (← field (← content.record? ["saved"]) "saved").bool?)
  | _ => none

/-- The message from the child with a kind and a content. -/
def ChildMessage.ofContent? (kind : String) (content : Value) : Option ChildMessage :=
  match kind with
  | "Reply" => (messageOfValue? content).map reply
  | "AskPassword" => do
    let fields ← content.record? ["name", "description", "key"]
    return askPassword (← (← field fields "name").text?) (← (← field fields "description").text?)
      (← keyOfValue? (← field fields "key"))
  | "SavePassword" => do
    let fields ← content.record? ["name", "password", "key"]
    return savePassword (← (← field fields "name").text?) (← (← field fields "password").text?)
      (← keyOfValue? (← field fields "key"))
  | "Report" => (ChildReport.ofValue? content).map report
  | _ => none

/-- The message to the child that octets are. -/
def ParentMessage.decode? (payload : Bytes) : Option ParentMessage := do
  let (kind, content) ← Cbor.readVariant payload
  ofContent? kind (← Cbor.readContent content)

/-- The message from the child that octets are.  A content of the message that has none is not looked
at. -/
def ChildMessage.decode? (payload : Bytes) : Option ChildMessage := do
  let (kind, content) ← Cbor.readVariant payload
  if kind = "Ready" then return ready else ofContent? kind (← Cbor.readContent content)

end DataSync.Local
