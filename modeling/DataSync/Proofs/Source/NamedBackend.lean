import DataSync.Proofs.Source.MemoryItems
import DataSync.Proofs.Source.Stable
import DataSync.Rehearsal.ScriptedBackend
import DataSync.Source.FileItems

/-!
# Backends with a name

A session tells its sources apart by the names of their backends, so a backend must keep its name
whatever it is asked to do.  All backends of this library do.
-/

namespace DataSync

open DataSync.Action

/-- A backend whose name no call changes. -/
class NamedBackend (β : Type) [Backend β] : Prop where
  name_call : ∀ {α : Type} {call : Action β SourceError α}, Backend.IsCall call →
    ∀ backend, Backend.name (call.stateAfter backend) = Backend.name backend

namespace MemoryBackend

variable {P : MemoryBackend → Prop} {α : Type}

/-- A backend that is not ready refuses and stays as it is. -/
theorem keeps_of_ready {call : Action MemoryBackend SourceError α}
    {next : Unit → Action MemoryBackend SourceError α} (checks : call = check >>= next)
    (keeps : ∀ backend : MemoryBackend, backend.Ready → P backend → P (call.stateAfter backend)) :
    call.Keeps P := by
  intro backend holds
  by_cases ready : backend.Ready
  · exact keeps backend ready holds
  · obtain ⟨e, refused⟩ := on_check_of_not_ready ready
    simpa [checks, stateAfter, on_bind, refused] using holds

theorem name_freshLuid (backend : MemoryBackend) :
    (freshLuid.on backend).2.name = backend.name := rfl

theorem keeps_name (name : String) {call : Action MemoryBackend SourceError α}
    (isCall : Backend.IsCall call) : call.Keeps (fun backend => backend.name = name) := by
  cases isCall with
  | openItems =>
    intro backend named
    simp only [stateAfter, Backend.openItems, on_of]
    split <;> exact named
  | closeItems => exact fun _ named => named
  | list =>
    refine keeps_of_ready rfl fun backend ready named => ?_
    rw [stateAfter, on_list ready]
    exact named
  | read luid =>
    refine keeps_of_ready rfl fun backend ready named => ?_
    rw [stateAfter, on_read luid ready]
    exact named
  | insert luid content =>
    refine keeps_of_ready rfl fun backend ready named => ?_
    rw [stateAfter, on_insert luid content ready]
    cases luid with
    | some luid =>
      dsimp only
      split <;> exact named
    | none =>
      have kept := name_freshLuid backend
      rcases fresh : freshLuid.on backend with ⟨_ | luid, after⟩ <;> rw [fresh] at kept <;>
        exact kept.trans named
  | remove luid =>
    refine keeps_of_ready rfl fun backend ready named => ?_
    rw [stateAfter, on_remove luid ready]
    split
    · exact named
    · split <;> exact named

instance : NamedBackend MemoryBackend where
  name_call isCall backend := keeps_name backend.name isCall backend rfl

end MemoryBackend

namespace ScriptedBackend

variable {α : Type}

theorem keeps_scripted (name : String) (call : BackendCall) :
    (scripted call).Keeps (fun backend => backend.memory.name = name) := by
  intro backend named
  simp only [stateAfter, scripted, on_of]
  split <;> exact named

theorem keeps_inMemory (name : String) {call : Action MemoryBackend SourceError α}
    (isCall : Backend.IsCall call) :
    (inMemory call).Keeps (fun backend => backend.memory.name = name) :=
  Keeps.within fun backend named => MemoryBackend.keeps_name name isCall backend.memory named

theorem name_foldl_discard (luids : List Luid) (memory : MemoryBackend) :
    (luids.foldl (fun memory luid => memory.discard luid) memory).name = memory.name := by
  induction luids generalizing memory with
  | nil => rfl
  | cons luid rest inductionHypothesis => exact inductionHypothesis _

theorem keeps_name (name : String) {call : Action ScriptedBackend SourceError α}
    (isCall : Backend.IsCall call) : call.Keeps (fun backend => backend.memory.name = name) := by
  cases isCall with
  | openItems => exact Keeps.bind (keeps_scripted name _) fun _ => keeps_inMemory name .openItems
  | closeItems => exact Keeps.bind (keeps_inMemory name .closeItems) fun _ => keeps_scripted name _
  | list =>
    refine Keeps.bind (keeps_scripted name _) fun _ => ?_
    refine Keeps.bind (keeps_inMemory name .list) fun revisions => ?_
    refine Keeps.bind (keeps_modify fun backend named => ?_) fun _ => keeps_pure _
    exact (name_foldl_discard backend.vanishing backend.memory).trans named
  | read luid => exact Keeps.bind (keeps_scripted name _) fun _ => keeps_inMemory name (.read luid)
  | insert luid content =>
    refine Keeps.bind (keeps_scripted name _) fun _ => ?_
    refine Keeps.bind (fun backend named => ?_) fun script => ?_
    · simp only [stateAfter, takeInsert, on_of]
      split <;> exact named
    refine Keeps.bind (keeps_inMemory name (.insert _ content)) fun inserted => ?_
    split
    · split <;> exact fun _ named => named
    · exact fun _ named => named
  | remove luid =>
    exact Keeps.bind (keeps_scripted name _) fun _ => keeps_inMemory name (.remove luid)

instance : NamedBackend ScriptedBackend where
  name_call isCall backend := keeps_name backend.memory.name isCall backend rfl

end ScriptedBackend

namespace FileItems

variable {α : Type} {name : String}

theorem keeps_check : check.Keeps (fun items => items.name = name) :=
  fun _ named => named

theorem keeps_path (luid : Luid) : (path luid).Keeps (fun items => items.name = name) :=
  fun _ named => named

/-- An access to the disk is none to the rest. -/
theorem keeps_onDisk (failure : IoError → SourceError) (action : Action Disk IoError α) :
    (onDisk failure action).Keeps (fun items => items.name = name) :=
  fun _ named => named

theorem keeps_stored (luid : Luid) (wasUpdate : Bool) (path : FilePath) :
    (stored luid wasUpdate path).Keeps (fun items => items.name = name) :=
  Keeps.bind (keeps_onDisk _ _) fun _ => keeps_pure _

theorem keeps_list : list.Keeps (fun items => items.name = name) :=
  Keeps.bind keeps_check fun _ => Keeps.bind keeps_get fun _ =>
    Keeps.bind (keeps_onDisk _ _) fun _ => keeps_pure _

theorem keeps_name (name : String) {call : Action FileItems SourceError α}
    (isCall : Backend.IsCall call) : call.Keeps (fun items => items.name = name) := by
  cases isCall with
  | openItems =>
    refine Keeps.bind keeps_get fun items => Keeps.bind (keeps_onDisk _ _) fun _ => ?_
    refine Keeps.bind (keeps_modify fun _ named => named) fun _ => ?_
    exact Keeps.bind keeps_list fun revisions => keeps_modify fun _ named => named
  | closeItems => exact fun _ named => named
  | list => exact keeps_list
  | read luid =>
    refine Keeps.bind keeps_check fun _ => Keeps.bind (keeps_path luid) fun path => ?_
    exact Keeps.bind (keeps_onDisk _ _) fun _ => keeps_pure _
  | insert luid content =>
    refine Keeps.bind keeps_check fun _ => ?_
    cases luid with
    | some luid =>
      refine Keeps.bind (keeps_path luid) fun path => Keeps.bind keeps_get fun items => ?_
      refine Keeps.bind (keeps_onDisk _ _) fun _ => ?_
      exact Keeps.bind (keeps_modify fun _ named => named) fun _ => keeps_stored _ _ _
    | none =>
      refine Keeps.bind (fun _ named => named) fun luid => Keeps.bind keeps_get fun items => ?_
      exact Keeps.bind (keeps_onDisk _ _) fun _ => keeps_stored _ _ _
  | remove luid =>
    refine Keeps.bind keeps_check fun _ => Keeps.bind (keeps_path luid) fun path => ?_
    exact keeps_onDisk _ _

instance : NamedBackend FileItems where
  name_call isCall items := keeps_name items.name isCall items rfl

end FileItems

end DataSync
