import DataSync.Http.Agent
import DataSync.Local.Agent
import DataSync.Obex.Agent
import DataSync.Rehearsal.Journal
import DataSync.Rehearsal.ScriptedBackend
import DataSync.Session.Synchronizer
import DataSync.Storage.MemoryNode

/-!
# Stages

A stage holds what lasts from one rehearsed session to the next: the synchronizer, the registry, the
person at the machine, and the backends with the nodes of their sources, which every session gets
anew.
-/

namespace DataSync

/-- What can happen around a rehearsed session. -/
abbrev StageHappening := Happening ScriptedBackend MemoryNode

/-! An agent over a scripted peer tells of nothing that happens around the session. -/

instance {γ η : Type} : Surroundings (Http.HttpAgent γ) η where
  happenings := pure []

instance {π η : Type} : Surroundings (Obex.ObexAgent π) η where
  happenings := pure []

instance {μ η : Type} : Surroundings (Local.LocalAgent μ) η where
  happenings := pure []

/-- What lasts from one rehearsed session to the next. -/
structure Stage where
  synchronizer : Synchronizer
  registry : Registry := {}
  person : Observer := {}
  places : List (ScriptedBackend × Option MemoryNode) := []

namespace Stage

/-- The sources of a new session. -/
def sources (stage : Stage) : List (Source ScriptedBackend MemoryNode) :=
  stage.places.map fun (backend, node) =>
    { backend, tracking := node.map fun node => { node } }

/-- What lasts of a source after a session. -/
def placeOf (source : Source ScriptedBackend MemoryNode) : ScriptedBackend × Option MemoryNode :=
  (source.backend, source.tracking.map (·.node))

/-- Run a session with an engine and an agent. -/
def run {α χ : Type} [Agent α] [Surroundings α StageHappening] [Engine χ StageHappening]
    (horizon : Nat) (engine : χ) (agent : α) (stage : Stage) :
    Option (Except SyncError SyncReport × χ × α × Stage) :=
  let setting : Setting α ScriptedBackend MemoryNode χ Observer :=
    { synchronizer := stage.synchronizer, registry := stage.registry, person := stage.person
      sources := stage.sources, engine, agent }
  (Synchronizer.run horizon setting).map fun (result, after) =>
    (result, after.engine, after.agent,
      { synchronizer := after.synchronizer, registry := after.registry, person := after.person
        places := after.sources.map placeOf })

end Stage

end DataSync
