import DataSync.Session.Engine

/-!
# The two-message engine

The smallest engine that does everything: with its first message it sends what changed here, then it
makes the changes of the other side, tells in a second message how that went, and ends the session.
-/

namespace DataSync

/-- A change that the other side made. -/
inductive RemoteChange where
  | add (source : String) (content : Bytes)
  | update (source : String) (luid : Luid) (content : Bytes)
  | delete (source : String) (luid : Luid)
deriving DecidableEq

/-- An item that was sent. -/
structure SentItem where
  source : String
  luid : Luid
  state : ItemState
  content : Bytes
deriving DecidableEq

/-- An engine that exchanges two messages. -/
structure TwoMessageEngine where
  remote : List RemoteChange := []
  ending : SessionEnd := .success
  /-- The number of messages that were sent, in this session. -/
  progress : Nat := 0
  session : Option SessionInfo := none
  offers : List SourceOffer := []
  sent : List SentItem := []
  refusals : List (String × Option Luid × ItemStatus) := []
  applied : Nat := 0
  inputs : List StepInput := []

namespace TwoMessageEngine

variable {η : Type}

/-- The items of an offer that are sent, with their states. -/
def changesToSend (offer : SourceOffer) : List (Luid × ItemState) :=
  if offer.mode.sendsChanges then
    offer.changes.added.map (·, .added) ++ offer.changes.updated.map (·, .updated)
      ++ offer.changes.deleted.map (·, .deleted)
  else []

/-- The engine with one more item refused. -/
def refuse (source : String) (luid : Option Luid) (status : ItemStatus)
    (engine : TwoMessageEngine) : TwoMessageEngine :=
  { engine with refusals := engine.refusals ++ [(source, luid, status)] }

/-- Add an item to the first message, with its content unless it was deleted. -/
def sendItem (source : String) (luid : Luid) (state : ItemState)
    (engine : TwoMessageEngine) : ItemProgram η TwoMessageEngine := do
  let content ← if state = .deleted then pure (.ok []) else ItemProgram.readItem source luid
  match content with
  | .ok content => return { engine with sent := engine.sent ++ [{ source, luid, state, content }] }
  | .error status => return engine.refuse source (some luid) status

/-- The line about an item in the first message. -/
def sentLine (item : SentItem) : String :=
  item.source ++ " " ++ item.state.name ++ " " ++ item.luid ++ "\n"

/-- The line about a change in the second message. -/
def changeLine (source : String) (code : Nat) (luid : Option Luid) : String :=
  source ++ " " ++ toString code ++ " " ++ luid.getD "" ++ "\n"

/-- Make a change of the other side; the answer is what the second message says about it. -/
def apply (change : RemoteChange) (engine : TwoMessageEngine) :
    ItemProgram η (String × TwoMessageEngine) := do
  let (source, luid, result) ← match change with
    | .add source content => do
      let result ← ItemProgram.insertItem source none content
      pure (source, result.toOption.map (·.luid), result.map fun _ => ())
    | .update source luid content => do
      let result ← ItemProgram.insertItem source (some luid) content
      pure (source, some luid, result.map fun _ => ())
    | .delete source luid => do
      let result ← ItemProgram.deleteItem source luid
      pure (source, some luid, result)
  match result with
  | .ok () => return (changeLine source 200 luid, { engine with applied := engine.applied + 1 })
  | .error status => return (changeLine source status.code luid, engine.refuse source luid status)

/-- The command to send a text, after which the engine is one message further. -/
def say (text : String) (engine : TwoMessageEngine) : StepCommand × TwoMessageEngine :=
  let contentType := (engine.session.map (·.contentType)).getD ""
  (.send ⟨Bytes.ofText text, contentType⟩ true, { engine with progress := engine.progress + 1 })

/-- Send what changed here. -/
def sendChanges (engine : TwoMessageEngine) : ItemProgram η (StepCommand × TwoMessageEngine) := do
  let items := engine.offers.flatMap fun offer =>
    (changesToSend offer).map fun (luid, state) => (offer.name, luid, state)
  let before := engine.sent.length
  let engine ← items.foldlM (fun engine (source, luid, state) => sendItem source luid state engine)
    engine
  return say (String.join ((engine.sent.drop before).map sentLine)) { engine with progress := 0 }

/-- Make the changes of the other side. -/
def applyRemote (engine : TwoMessageEngine) : ItemProgram η (StepCommand × TwoMessageEngine) := do
  let (text, engine) ← engine.remote.foldlM
    (fun (text, engine) change => do
      let (line, engine) ← apply change engine
      return (text ++ line, engine))
    ("", engine)
  return say text engine

/-- The command after an input. -/
def command (input : StepInput) (engine : TwoMessageEngine) :
    ItemProgram η (StepCommand × TwoMessageEngine) :=
  match input with
  | .suspend => return (.finish .suspended, engine)
  | .abort => return (.finish .aborted, engine)
  | .start => sendChanges engine
  | .reply _ | .sent =>
    if engine.progress = 1 then applyRemote engine else return (.finish engine.ending, engine)

instance : Engine TwoMessageEngine η where
  begin session offers :=
    .alter fun engine => { engine with session := some session, offers, progress := 0 }
  step input engine := do
    let (command, engine) ← command input { engine with inputs := engine.inputs ++ [input] }
    return (.ok command, engine)

end TwoMessageEngine

end DataSync
