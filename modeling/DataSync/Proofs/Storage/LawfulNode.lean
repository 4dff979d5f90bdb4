import DataSync.Storage.FileNode
import DataSync.Storage.MemoryNode
import DataSync.Source.Basic

/-!
# Lawful nodes

What a node promises about its content: replacing the properties is done wholly or not at all, and
storing them does not change them.  Nodes in memory and nodes in files keep the promise.
-/

namespace DataSync

/-- A node whose properties are replaced as a whole and stored as they are. -/
class LawfulNode (ν : Type) [PropertyNode ν] : Prop where
  read_replaceAll : ∀ {properties : Properties} {node after : ν},
    (PropertyNode.replaceAll properties).on node = (.ok (), after) →
      PropertyNode.read after = .ok properties
  read_replaceAll_error : ∀ {properties : Properties} {node after : ν} {e : StorageError},
    (PropertyNode.replaceAll properties).on node = (.error e, after) →
      PropertyNode.read after = PropertyNode.read node
  read_flush : ∀ node : ν, PropertyNode.read (PropertyNode.flush.stateAfter node) =
    PropertyNode.read node

instance : LawfulNode MemoryNode where
  read_replaceAll {properties node after} replaced := by
    simp only [PropertyNode.replaceAll, MemoryNode.change, Action.on_of] at replaced
    split at replaced
    · cases replaced
    · cases replaced
      rfl
  read_replaceAll_error {properties node after e} refused := by
    simp only [PropertyNode.replaceAll, MemoryNode.change, Action.on_of] at refused
    split at refused
    · cases refused
      rfl
    · cases refused
  read_flush node := by
    simp only [PropertyNode.flush, MemoryNode.change, Action.stateAfter, Action.on_of]
    split <;> rfl

/-- Storing other properties in a file changes what the node holds only if it succeeds. -/
theorem FileNode.read_store (properties : Properties) (node : FileNode) :
    PropertyNode.read ((FileNode.store properties).stateAfter node) =
      match ((FileNode.store properties).on node).1 with
      | .ok () => .ok properties
      | .error _ => PropertyNode.read node := by
  simp only [FileNode.store, Action.stateAfter, Action.on_of]
  rcases (Disk.replace node.path (Bytes.ofText (PropertyFile.render properties))).on node.disk
    with ⟨_ | ⟨⟩, _⟩ <;> rfl

instance : LawfulNode FileNode where
  read_replaceAll {properties node after} replaced := by
    have content := FileNode.read_store properties node
    change (FileNode.store properties).on node = _ at replaced
    simpa [Action.stateAfter, replaced] using content
  read_replaceAll_error {properties node after e} refused := by
    have content := FileNode.read_store properties node
    change (FileNode.store properties).on node = _ at refused
    simpa [Action.stateAfter, refused] using content
  read_flush node := by
    simp only [PropertyNode.flush, Action.stateAfter, Action.on_of]
    split
    · have content := FileNode.read_store node.properties node
      simp only [Action.stateAfter] at content
      rw [content]
      split <;> rfl
    · rfl

namespace RevisionStore

variable {ν : Type} [PropertyNode ν]

theorem replaced_of_saved {revisions : RevisionMap} {node after : ν}
    (saved : (save revisions).on node = (.ok (), after)) :
    ((PropertyNode.replaceAll revisions).on node).1 = .ok () := by
  obtain ⟨⟨⟩, between, replaced, -⟩ := Action.on_bind_eq_ok.1 (Action.on_mapError_eq_ok.1 saved)
  rw [replaced]

theorem on_save_of_refused {revisions : RevisionMap} {node after : ν} {e : StorageError}
    (refused : (PropertyNode.replaceAll revisions).on node = (.error e, after)) :
    (save revisions).on node = (.error (.storage e), after) := by
  rw [save, Action.on_mapError, Action.on_bind, refused]
  rfl

/-- Saving revisions puts them into the node before it may fail to store them. -/
theorem read_save [LawfulNode ν] (revisions : RevisionMap) (node : ν) :
    PropertyNode.read ((save revisions).stateAfter node) =
      match ((PropertyNode.replaceAll revisions).on node).1 with
      | .ok () => .ok revisions
      | .error _ => PropertyNode.read node := by
  simp only [save, Action.stateAfter, Action.on_mapError, Action.on_bind]
  cases replaced : (PropertyNode.replaceAll revisions).on node with
  | mk answer after =>
    cases answer with
    | error e => exact LawfulNode.read_replaceAll_error replaced
    | ok _ => exact (LawfulNode.read_flush after).trans (LawfulNode.read_replaceAll replaced)

end RevisionStore

end DataSync
