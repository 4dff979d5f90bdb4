import DataSync.Proofs.Source.Comparison
import DataSync.Proofs.Source.NewFiles

/-!
# Revisions of files

The revision of an item file is the text of its modification time.  From the epoch on different times
have different texts.  All times before the epoch share the text of the epoch itself, so that of two
states of a file in which it has different times the listings tell nothing exactly if neither time is
after the epoch.
-/

namespace DataSync

namespace FileItems

open DataSync.Action

theorem toNat_eq_of_revisionOf_eq {first second : Int}
    (same : revisionOf first = revisionOf second) : first.toNat = second.toNat := by
  have digits := congrArg String.toList same
  rw [revisionOf, revisionOf, Nat.toString_eq_repr, Nat.toString_eq_repr, Nat.toList_repr,
    Nat.toList_repr] at digits
  have numbers := congrArg Text.digits? digits
  rw [Text.digits?_toDigits, Text.digits?_toDigits] at numbers
  exact Option.some.inj numbers

/-- Two times have one revision if they are the same or if neither is after the epoch. -/
theorem revisionOf_eq_iff {first second : Int} :
    revisionOf first = revisionOf second ↔ first = second ∨ first ≤ 0 ∧ second ≤ 0 := by
  constructor
  · intro same
    have := toNat_eq_of_revisionOf_eq same
    omega
  · intro times
    have same : first.toNat = second.toNat := by omega
    rw [revisionOf, revisionOf, same]

theorem get?_listing (content : Folder) (luid : Luid) :
    (listing content).get? luid = match content.get? luid with
      | some (.file file) => if isHidden luid then none else some (revisionOf file.modified)
      | _ => none := by
  rw [listing, Table.get?_filterMap]
  rcases content.get? luid with _ | _ | _ <;> rfl

/-- A file of an open directory is one of its items. -/
structure HasItem (items : FileItems) (luid : Luid) (file : File) : Prop where
  opened : items.isOpen = true
  visible : isHidden luid = false
  there : ∃ content, items.disk.folders.get? items.folder = some content ∧
    content.get? luid = some (.file file)

variable {items : FileItems} {luid : Luid} {file : File}

theorem HasItem.listed (item : items.HasItem luid file) :
    ∃ revisions, (Backend.list).on items = (.ok revisions, items) ∧
      revisions.get? luid = some (revisionOf file.modified) := by
  obtain ⟨content, present, entry⟩ := item.there
  refine ⟨listing content, on_list_of_open item.opened present, ?_⟩
  rw [get?_listing, entry]
  simp only [item.visible, Bool.false_eq_true, if_false]

variable {earlier later : FileItems} {old new : File}

/-- Two listings give a file whose modification time differs between them different revisions, and it
counts as updated, exactly if one of the times is after the epoch.  Otherwise it counts as unchanged. -/
theorem touched_file_is_updated_iff (before : earlier.HasItem luid old) (now : later.HasItem luid new)
    (touched : old.modified ≠ new.modified) :
    ∃ previous current,
      (Backend.list).on earlier = (.ok previous, earlier) ∧
      (Backend.list).on later = (.ok current, later) ∧
      previous.get? luid = some (revisionOf old.modified) ∧
      current.get? luid = some (revisionOf new.modified) ∧
      (revisionOf old.modified ≠ revisionOf new.modified ↔ 0 < old.modified ∨ 0 < new.modified) ∧
      (ChangeSet.between current previous).state? luid =
        some (if 0 < old.modified ∨ 0 < new.modified then .updated else .unchanged) := by
  obtain ⟨previous, listedBefore, revisionBefore⟩ := before.listed
  obtain ⟨current, listedNow, revisionNow⟩ := now.listed
  have told : revisionOf old.modified ≠ revisionOf new.modified ↔
      0 < old.modified ∨ 0 < new.modified := by
    rw [Ne, revisionOf_eq_iff]
    omega
  refine ⟨previous, current, listedBefore, listedNow, revisionBefore, revisionNow, told, ?_⟩
  rw [ChangeSet.state?_between, revisionNow, revisionBefore]
  -- A change set compares the revision now with the one before.
  by_cases late : 0 < old.modified ∨ 0 < new.modified
  · have different := (told.2 late).symm
    simp only [ItemState.against, different, if_false, late, if_true]
  · have same : revisionOf new.modified = revisionOf old.modified :=
      (Decidable.not_not.1 fun different => late (told.1 different)).symm
    simp only [ItemState.against, same, if_true, late, if_false]

/-- An open directory with one item file. -/
def holding (luid : Luid) (file : File) : FileItems :=
  { name := "memo", folder := "memo", isOpen := true,
    disk := { folders := .ofList [("memo", .ofList [(luid, .file file)])] } }

theorem hasItem_holding (file : File) : (holding "1" file).HasItem "1" file where
  opened := rfl
  visible := by decide
  there := ⟨.ofList [("1", .file file)], rfl, rfl⟩

/-- A file of the last nanosecond before the epoch that is written again just after it. -/
theorem updated_across_the_epoch :
    ∃ previous current,
      (Backend.list).on (holding "1" { content := [97], modified := -1 }) =
        (.ok previous, holding "1" { content := [97], modified := -1 }) ∧
      (Backend.list).on (holding "1" { content := [98], modified := 1 }) =
        (.ok current, holding "1" { content := [98], modified := 1 }) ∧
      (ChangeSet.between current previous).state? "1" = some .updated := by
  obtain ⟨previous, current, listedBefore, listedNow, -, -, -, compared⟩ :=
    touched_file_is_updated_iff (hasItem_holding { content := [97], modified := -1 })
      (hasItem_holding { content := [98], modified := 1 }) (by decide)
  exact ⟨previous, current, listedBefore, listedNow, compared⟩

/-- A file of one time before the epoch that is restored with another content and another time before
the epoch goes unnoticed. -/
theorem unnoticed_before_the_epoch :
    ∃ previous current,
      (Backend.list).on (holding "1" { content := [97], modified := -1 }) =
        (.ok previous, holding "1" { content := [97], modified := -1 }) ∧
      (Backend.list).on (holding "1" { content := [98], modified := -2 }) =
        (.ok current, holding "1" { content := [98], modified := -2 }) ∧
      previous.get? "1" = current.get? "1" ∧
      (ChangeSet.between current previous).state? "1" = some .unchanged := by
  refine ⟨_, _, on_list_of_open rfl rfl, on_list_of_open rfl rfl, ?_, ?_⟩
  · decide +kernel
  · decide +kernel

end FileItems

end DataSync
