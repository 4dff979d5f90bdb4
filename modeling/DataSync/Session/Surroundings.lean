import DataSync.Session.Handle
import DataSync.Source.Basic
import DataSync.Transport.Choice

/-!
# Surroundings

What happens around a session without its doing: somebody asks it to suspend or to abort, or the
backends and nodes of its sources change their behaviour.  The properties in a node stay as they are,
because a node belongs to one session at a time, and so does the name of a backend, by which the
session knows it.
-/

namespace DataSync

/-- A change of a source from the outside. -/
structure Disturbance (β ν : Type) [PropertyNode ν] where
  /-- The position of the source in the session. -/
  position : Nat
  backend : β → β := id
  node : ν → ν := id
  keepsProperties : ∀ n, PropertyNode.read (node n) = PropertyNode.read n := by intro _; rfl

/-- The backend after a change from the outside; one that would rename it is not made. -/
def Disturbance.changed {β ν : Type} [Backend β] [PropertyNode ν] (change : Disturbance β ν)
    (backend : β) : β :=
  if Backend.name (change.backend backend) = Backend.name backend then change.backend backend
  else backend

/-- The source after a change from the outside. -/
def Disturbance.apply {β ν : Type} [Backend β] [PropertyNode ν] (change : Disturbance β ν)
    (source : Source β ν) : Source β ν :=
  { source with
    backend := change.changed source.backend
    tracking := source.tracking.map fun tracking =>
      { tracking with node := change.node tracking.node } }

/-- Something that happens around a session. -/
inductive Happening (β ν : Type) [PropertyNode ν] where
  | suspend
  | abort
  | interrupt
  | disturbance (change : Disturbance β ν)

/-- A state that tells what happened since it was asked before. -/
class Surroundings (α η : Type) where
  happenings : StateM α (List η)

instance {α β η : Type} [Surroundings α η] [Surroundings β η] : Surroundings (α ⊕ β) η where
  happenings := AgentChoice.tell Surroundings.happenings Surroundings.happenings

end DataSync
