import DataSync.Storage.Node

/-!
# Nodes in memory

A node without a file.  It can be told to take no changes, as a full or read-only disk would.
-/

namespace DataSync

/-- A node whose properties last as long as its value. -/
structure MemoryNode where
  name : String
  properties : Properties := .empty
  written : Bool := false
  rejectsWrites : Bool := false
deriving DecidableEq

namespace MemoryNode

/-- A node that was written before. -/
def holding (name : String) (properties : Properties) : MemoryNode :=
  { name, properties, written := true }

/-- A change, unless the node takes none. -/
def change (f : MemoryNode → MemoryNode) : Action MemoryNode StorageError Unit :=
  .of fun node =>
    if node.rejectsWrites then (.error (.writeRejected node.name), node) else (.ok (), f node)

instance : PropertyNode MemoryNode where
  name := name
  isStored := written
  read node := .ok node.properties
  set key value := change fun node =>
    { node with properties := node.properties.insert key value, written := true }
  remove key := change fun node => { node with properties := node.properties.erase key }
  replaceAll properties := change fun node => { node with properties, written := true }
  flush := change id

end MemoryNode

end DataSync
