import DataSync.Source.MemoryBackend

/-!
# Scripted backends

A backend in memory whose next calls can be scripted: to fail once, to lose items right after they
were listed, or to store an item differently than asked.  It stands in for real backends, which do
all of this.
-/

namespace DataSync

/-- The calls of a backend. -/
inductive BackendCall where
  | opening
  | listing
  | reading
  | inserting
  | removing
  | closing
deriving DecidableEq

/-- How a stored item differs from what was asked. -/
structure InsertScript where
  luid : Option Luid := none
  wasUpdate : Option Bool := none
  state : Option InsertState := none
deriving DecidableEq

/-- A backend in memory and the scripts for its next calls. -/
structure ScriptedBackend where
  memory : MemoryBackend
  failures : List (BackendCall × SourceError) := []
  vanishing : List Luid := []
  inserts : List InsertScript := []
deriving DecidableEq

namespace ScriptedBackend

/-- Make the next call of a kind fail. -/
def failNext (call : BackendCall) (e : SourceError) (backend : ScriptedBackend) :
    ScriptedBackend :=
  { backend with failures := (call, e) :: backend.failures.filter (·.1 ≠ call) }

/-- Make items vanish after the next listing. -/
def vanish (luids : List Luid) (backend : ScriptedBackend) : ScriptedBackend :=
  { backend with vanishing := luids }

/-- Script one more insertion. -/
def nextInsert (script : InsertScript) (backend : ScriptedBackend) : ScriptedBackend :=
  { backend with inserts := backend.inserts ++ [script] }

/-- Forget all scripts and failures. -/
def heal (backend : ScriptedBackend) : ScriptedBackend :=
  { memory := backend.memory.heal }

/-- Fail if the script says so for this call. -/
def scripted (call : BackendCall) : Action ScriptedBackend SourceError Unit :=
  .of fun backend => match backend.failures.find? (·.1 = call) with
    | none => (.ok (), backend)
    | some (_, e) =>
      (.error e, { backend with failures := backend.failures.filter (·.1 ≠ call) })

/-- A call of the backend in memory. -/
def inMemory {α : Type} (action : Action MemoryBackend SourceError α) :
    Action ScriptedBackend SourceError α :=
  action.within (·.memory) fun memory backend => { backend with memory }

/-- Take the script of an insertion. -/
def takeInsert : Action ScriptedBackend SourceError InsertScript :=
  .of fun backend => match backend.inserts with
    | [] => (.ok {}, backend)
    | script :: inserts => (.ok script, { backend with inserts })

instance : Backend ScriptedBackend where
  name backend := backend.memory.name
  mimeType backend := backend.memory.mimeType
  openItems := do
    scripted .opening
    inMemory Backend.openItems
  closeItems := do
    inMemory Backend.closeItems
    scripted .closing
  list := do
    scripted .listing
    let revisions ← inMemory Backend.list
    modify fun backend =>
      { backend with
        memory := backend.vanishing.foldl (fun memory luid => memory.discard luid) backend.memory
        vanishing := [] }
    return revisions
  read luid := do
    scripted .reading
    inMemory (Backend.read luid)
  insert luid content := do
    scripted .inserting
    let script ← takeInsert
    let inserted ← inMemory (Backend.insert (script.luid.or luid) content)
    match script.luid, luid with
    | some elsewhere, some requested =>
      if elsewhere ≠ requested then
        modify fun backend => { backend with memory := backend.memory.discard requested }
    | _, _ => pure ()
    return { inserted with
      wasUpdate := script.wasUpdate.getD inserted.wasUpdate
      state := script.state.getD inserted.state }
  remove luid := do
    scripted .removing
    inMemory (Backend.remove luid)

end ScriptedBackend

end DataSync
