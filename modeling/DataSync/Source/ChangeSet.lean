import DataSync.Source.Revision

/-!
# Change sets

How the items of a source stand against an earlier state of it.  A change set gives each item of
either state exactly one `ItemState`.
-/

namespace DataSync

/-- How an item stands against the earlier state. -/
inductive ItemState where
  | added
  | updated
  | deleted
  | unchanged
deriving DecidableEq

/-- The name of a state. -/
def ItemState.name : ItemState → String
  | added => "Added"
  | updated => "Updated"
  | deleted => "Deleted"
  | unchanged => "Unchanged"

/-- The state of each item that is or was there. -/
structure ChangeSet where
  states : Table ItemState
deriving DecidableEq

namespace ChangeSet

/-- The change set without items. -/
def empty : ChangeSet :=
  ⟨.empty⟩

/-- The state of an item that is there now, by its revisions then and now. -/
def stateOf (current : Revision) : Option Revision → ItemState
  | none => .added
  | some previous => if current = previous then .unchanged else .updated

/-- The changes that lead from a previous listing to the current one. -/
def between (current previous : RevisionMap) : ChangeSet :=
  let gone := previous.filterMap fun luid _ =>
    if current.contains luid then none else some ItemState.deleted
  let present := current.filterMap fun luid revision =>
    some (stateOf revision (previous.get? luid))
  ⟨gone.union present⟩

/-- The change set in which everything is new. -/
def allAdded (current : RevisionMap) : ChangeSet :=
  ⟨current.filterMap fun _ _ => some .added⟩

/-- The state of an item. -/
def state? (changes : ChangeSet) (luid : Luid) : Option ItemState :=
  changes.states.get? luid

/-- The items with a state, in ascending order. -/
def withState (changes : ChangeSet) (state : ItemState) : List Luid :=
  (changes.states.entries.filter (·.2 = state)).map (·.1)

/-- The items that only the current listing has. -/
def added (changes : ChangeSet) : List Luid := changes.withState .added

/-- The items that both listings have with different revisions. -/
def updated (changes : ChangeSet) : List Luid := changes.withState .updated

/-- The items that only the previous listing has. -/
def deleted (changes : ChangeSet) : List Luid := changes.withState .deleted

/-- The items that both listings have with one revision. -/
def unchanged (changes : ChangeSet) : List Luid := changes.withState .unchanged

/-- The number of items that changed. -/
def size (changes : ChangeSet) : Nat :=
  changes.added.length + changes.updated.length + changes.deleted.length

/-- Whether nothing changed. -/
def isEmpty (changes : ChangeSet) : Bool :=
  changes.size = 0

end ChangeSet

end DataSync
