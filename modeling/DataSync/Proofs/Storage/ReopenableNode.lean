import DataSync.Proofs.Storage.Reopening

/-!
# Reopenable nodes

A node that may be dropped and opened again: what was saved into it is found there by the next owner.
A node in memory is found by a clone, which shares its properties, and a node in a file by opening the
file, whatever else happened to the disk.
-/

namespace DataSync

/-- A lawful node that can be left to a later owner. -/
class ReopenableNode (ν : Type) [PropertyNode ν] extends LawfulNode ν where
  /-- A node as it was left may be opened again as another one. -/
  Reopens : (left found : ν) → Prop
  load_reopened : ∀ {revisions : RevisionMap} {node left found : ν},
    (RevisionStore.save revisions).on node = (.ok (), left) → Reopens left found →
      RevisionStore.load found = .ok revisions

/-- Properties that the node refuses to take are not noticed by a later owner. -/
def ReopenableNode.HidesRefusals {ν : Type} [PropertyNode ν] [ReopenableNode ν] (node : ν) : Prop :=
  ∀ {properties : Properties} {e : StorageError} {left found : ν},
    (PropertyNode.replaceAll properties).on node = (.error e, left) →
      Reopens left found → Reopens node found

namespace RevisionStore

theorem load_of_save {ν : Type} [PropertyNode ν] [LawfulNode ν] {revisions : RevisionMap}
    {node saved : ν} (saves : (save revisions).on node = (.ok (), saved)) :
    load saved = .ok revisions := by
  have content := read_save revisions node
  rw [Action.stateAfter, replaced_of_saved saves, saves] at content
  rw [load, content]
  rfl

end RevisionStore

instance : ReopenableNode MemoryNode where
  Reopens left found := found.properties = left.properties
  load_reopened {revisions node left found} saves shared := by
    rw [← RevisionStore.load_of_save saves]
    simp [RevisionStore.load, PropertyNode.read, shared]

theorem MemoryNode.hidesRefusals (node : MemoryNode) : ReopenableNode.HidesRefusals node := by
  intro properties e left found refused shared
  simp only [PropertyNode.replaceAll, MemoryNode.change, Action.on_of] at refused
  split at refused <;> cases refused
  exact shared

instance : ReopenableNode FileNode where
  Reopens left found := ∃ disk after, disk.entry? left.path = left.close.entry? left.path ∧
    FileNode.openAt left.path disk = (.ok found, after)
  load_reopened {revisions node left found} saves reopened := by
    obtain ⟨disk, after, same, opens⟩ := reopened
    obtain ⟨file, there, written⟩ := FileNode.written_of_save saves
    rw [← FileNode.entry?_close, ← same] at there
    have holds := FileNode.read_of_openAt opens there written
    rw [RevisionStore.load, holds]
    rfl

end DataSync
