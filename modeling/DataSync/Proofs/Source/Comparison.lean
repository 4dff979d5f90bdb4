import DataSync.Source.ChangeSet

/-!
# Comparing listings

A change set says of every item what its two revisions say: the one in the current listing and the one
in the listing that it is compared with, either of which may be missing.  Both missing, the item is not
mentioned.
-/

namespace DataSync

/-- How an item stands whose revisions are `now` and `before`. -/
def ItemState.against : (now before : Option Revision) → Option ItemState
  | some _, none => some added
  | none, some _ => some deleted
  | some now, some before => some (if now = before then unchanged else updated)
  | none, none => none

namespace ChangeSet

variable {changes : ChangeSet} {luid : Luid} {state : ItemState}

/-- The lists of a change set hold each item once, by its state. -/
theorem mem_withState : luid ∈ changes.withState state ↔ changes.state? luid = some state := by
  rw [withState, state?, Table.get?_eq_some_iff]
  simp

theorem state?_between (current previous : RevisionMap) (luid : Luid) :
    (between current previous).state? luid =
      ItemState.against (current.get? luid) (previous.get? luid) := by
  unfold state? between Table.contains
  rw [Table.get?_union, Table.get?_filterMap, Table.get?_filterMap]
  cases current.get? luid with
  | none => cases previous.get? luid <;> rfl
  | some now => cases previous.get? luid <;> simp [ItemState.against, stateOf]

/-- An item changed if its revisions differ. -/
theorem changed_iff {now before : Option Revision}
    (compared : changes.state? luid = ItemState.against now before) :
    luid ∈ changes.added ∨ luid ∈ changes.updated ∨ luid ∈ changes.deleted ↔ now ≠ before := by
  simp only [added, updated, deleted, mem_withState, compared]
  cases now with
  | none => cases before <;> simp [ItemState.against]
  | some now =>
    cases before with
    | none => simp [ItemState.against]
    | some before => by_cases same : now = before <;> simp [ItemState.against, same]

end ChangeSet

end DataSync
