import DataSync.Session.Engine

/-!
# Planned engines

An engine that follows a plan: for each step what to do with items, what happens around the session
meanwhile, and which command to give.
-/

namespace DataSync

/-- A part of a step. -/
inductive PlannedAct (η : Type) where
  | read (source : String) (luid : Luid)
  | insert (source : String) (luid : Option Luid) (content : Bytes)
  | delete (source : String) (luid : Luid)
  | happening (happening : η)

/-- A step of a plan. -/
structure PlannedStep (η : Type) where
  acts : List (PlannedAct η) := []
  command : Except SyncError StepCommand

/-- What became of an access to an item. -/
inductive ActResult where
  | content (bytes : Bytes)
  | inserted (inserted : Inserted)
  | deleted
  | refused (status : ItemStatus)
deriving DecidableEq

/-- What a planned engine noted. -/
inductive EngineNote where
  | began (session : SessionInfo) (offers : List SourceOffer)
  | stepped (input : StepInput) (results : List ActResult)

/-- An engine that follows a plan. -/
structure PlannedEngine (η : Type) where
  beginError : Option SyncError := none
  steps : List (PlannedStep η) := []
  onSuspend : Except SyncError StepCommand := .ok (.finish .suspended)
  onAbort : Except SyncError StepCommand := .ok (.finish .aborted)
  notes : List EngineNote := []

namespace PlannedEngine

variable {η : Type}

/-- Do a part of a step. -/
def act : PlannedAct η → ItemProgram η (List ActResult)
  | .read source luid => do
    match ← ItemProgram.readItem source luid with
    | .ok content => return [.content content]
    | .error status => return [.refused status]
  | .insert source luid content => do
    match ← ItemProgram.insertItem source luid content with
    | .ok inserted => return [.inserted inserted]
    | .error status => return [.refused status]
  | .delete source luid => do
    match ← ItemProgram.deleteItem source luid with
    | .ok () => return [.deleted]
    | .error status => return [.refused status]
  | .happening happening => .meanwhile happening (.pure [])

/-- Do all parts of a step. -/
def actAll (acts : List (PlannedAct η)) : ItemProgram η (List ActResult) :=
  acts.foldlM (fun results part => return results ++ (← act part)) []

/-- The step that follows, and the engine after it; a plan that is carried out ends the session. -/
def nextStep (engine : PlannedEngine η) : PlannedStep η × PlannedEngine η :=
  match engine.steps with
  | [] => ({ command := .ok (.finish .success) }, engine)
  | step :: steps => (step, { engine with steps })

instance : Engine (PlannedEngine η) η where
  begin session offers := .of fun engine =>
    let engine := { engine with notes := engine.notes ++ [.began session offers] }
    (match engine.beginError with | some e => .error e | none => .ok (), engine)
  step input engine := do
    let (step, engine) : PlannedStep η × PlannedEngine η := match input with
      | .suspend => ({ command := engine.onSuspend }, engine)
      | .abort => ({ command := engine.onAbort }, engine)
      | .start | .reply _ | .sent => engine.nextStep
    let results ← actAll step.acts
    return (step.command, { engine with notes := engine.notes ++ [.stepped input results] })

end PlannedEngine

end DataSync
