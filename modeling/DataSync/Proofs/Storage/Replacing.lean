import DataSync.Proofs.Storage.Reopening

/-!
# Replacing what a node holds

A node file is replaced in one move.  If that succeeds, the open node holds the new properties, and so
does its file.  If a step up to the rename fails, both are what they were, which need not be the same:
changes that were not flushed are in the node and not in its file.
-/

namespace DataSync

open DataSync.Action

namespace FileNode

variable {path : FilePath} {node : FileNode} {new : Properties}

/-! ## What is found again -/

/-- The properties of a node that was dropped and is opened again. -/
def found (node : FileNode) : Except StorageError Properties :=
  (openAt node.path node.close).1.bind PropertyNode.read

theorem found_eq_load (attached : node.Attached) :
    node.found = (load node.path node.disk).map Prod.fst := by
  obtain ⟨disk, -, opens⟩ := openAt_close attached
  rw [found, opens]
  cases load node.path node.disk <;> rfl

/-- The node, with other steps failing on its disk from now on. -/
def withFaults (faults : List (ReplaceStep × IoError)) (node : FileNode) : FileNode :=
  { node with disk := { node.disk with faults } }

theorem InUse.withFaults (inUse : node.InUse) (faults : List (ReplaceStep × IoError)) :
    (node.withFaults faults).InUse :=
  inUse.faults faults

theorem load_withFaults (faults : List (ReplaceStep × IoError)) (node : FileNode) :
    load node.path (node.withFaults faults).disk = load node.path node.disk :=
  load_congr rfl

theorem found_withFaults (inUse : node.InUse) (faults : List (ReplaceStep × IoError)) :
    (node.withFaults faults).found = node.found := by
  rw [found_eq_load (inUse.withFaults faults).attached, found_eq_load inUse.attached,
    ← load_withFaults faults node]
  rfl

/-! ## Replacing -/

/-- A step up to the rename fails when the node file is replaced. -/
def MoveFails (new : Properties) (node : FileNode) : Prop :=
  ∃ e, ((Disk.moveIn node.path (Bytes.ofText (PropertyFile.render new))).on node.disk).1 = .error e

theorem moveFails_of_fault {step : ReplaceStep} {e : IoError}
    (fault : (step, e) ∈ node.disk.faults) (early : step.isUpToRename = true) :
    node.MoveFails new := by
  obtain ⟨e, refused⟩ | ⟨passes, -⟩ :=
    Disk.moveIn_cases node.path (Bytes.ofText (PropertyFile.render new)) node.disk
  · exact ⟨e, by rw [refused]⟩
  · exact absurd fault ((Disk.on_pass_eq_ok_iff step).1 (passes step early) e)

theorem on_store_of_moveFails (fails : node.MoveFails new) :
    ∃ e, (store new).on node = (.error e, node) := by
  obtain ⟨e, failed⟩ := fails
  obtain ⟨e, refused⟩ | ⟨-, _, -, -, moved⟩ :=
    Disk.moveIn_cases node.path (Bytes.ofText (PropertyFile.render new)) node.disk
  · refine ⟨.io e, ?_⟩
    rw [on_store, Disk.replace_eq, on_bind, refused]
  · rw [moved] at failed
    cases failed

/-- What came of replacing the properties was done as a whole, in the open node and in its file, or
the open node is as it was.  The file, too, is as it was if the rename was not reached. -/
structure AllOrNothing {ε : Type} (new : Properties) (node : FileNode)
    (outcome : Except ε Unit × FileNode) : Prop where
  ok : outcome.1 = .ok () →
    PropertyNode.read outcome.2 = .ok new ∧ (node.InUse → outcome.2.found = .ok new)
  error : ∀ e, outcome.1 = .error e →
    PropertyNode.read outcome.2 = PropertyNode.read node ∧
      (node.MoveFails new → outcome.2.found = node.found)
  fails : node.MoveFails new → ∃ e, outcome.1 = .error e
  succeeds : node.InUse → node.disk.faults = [] → outcome.1 = .ok ()

theorem allOrNothing_store (new : Properties) (node : FileNode) :
    AllOrNothing new node ((store new).on node) := by
  refine ⟨fun answered => ?_, fun e refused => ?_, fun fails => ?_, fun inUse faultless => ?_⟩
  · have stores : (store new).on node = (.ok (), (store new).stateAfter node) :=
      Prod.ext answered rfl
    refine ⟨LawfulNode.read_replaceAll stores, fun inUse => ?_⟩
    change found ((store new).stateAfter node) = .ok new
    obtain ⟨disk, replaces, same⟩ := store_eq_ok stores
    rw [found_eq_load (inUse.attached.store new), same,
      load_of_written (Disk.entry?_replace replaces) rfl]
    rfl
  · refine ⟨LawfulNode.read_replaceAll_error (Prod.ext refused rfl), fun fails => ?_⟩
    obtain ⟨_, unchanged⟩ := on_store_of_moveFails fails
    rw [unchanged]
  · obtain ⟨e, unchanged⟩ := on_store_of_moveFails fails
    exact ⟨e, by rw [unchanged]⟩
  · obtain ⟨stored, stores⟩ := store_of_faultless inUse.attached faultless new
    rw [stores]

theorem AllOrNothing.mapError {ε ε' : Type} {outcome : Except ε Unit × FileNode} (f : ε → ε')
    (all : AllOrNothing new node outcome) :
    AllOrNothing new node (outcome.1.mapError f, outcome.2) := by
  obtain ⟨e | ⟨⟩, after⟩ := outcome
  · refine ⟨fun answered => ?_, fun _ _ => all.error e rfl, fun _ => ⟨f e, rfl⟩, ?_⟩
    · cases answered
    · intro inUse faultless
      cases all.succeeds inUse faultless
  · refine ⟨fun _ => all.ok rfl, fun e refused => ?_, fun fails => ?_, fun _ _ => rfl⟩
    · cases refused
    · obtain ⟨e, refused⟩ := all.fails fails
      cases refused

/-- Properties or revisions that are put into a node in the place of all others are there as a whole if
this succeeds, also when the node is dropped and opened again.  If it does not, the open node holds what
it held, and if a step up to the rename is what failed, so does its file. -/
theorem replaced_as_a_whole (new : Properties) (node : FileNode) :
    AllOrNothing new node ((PropertyNode.replaceAll new).on node) ∧
    AllOrNothing new node ((RevisionStore.save new).on node) ∧
    ∀ step e, (step, e) ∈ node.disk.faults → step.isUpToRename = true → node.MoveFails new := by
  have stored := allOrNothing_store new node
  refine ⟨stored, ?_, fun step e fault early => moveFails_of_fault fault early⟩
  rw [on_save]
  exact stored.mapError SourceError.storage

theorem oddRevisions_replaced_as_a_whole :
    ∃ node opened saved e refused,
      openAt ⟨"/var/sync", "notes"⟩ emptyFolder = (.ok node, opened) ∧
      (PropertyNode.replaceAll oddRevisions).on node = (.ok (), saved) ∧
      saved.found = .ok oddRevisions ∧
      (RevisionStore.save .empty).on (saved.withFaults [(.rename, .ofKind .permissionDenied)]) =
        (.error e, refused) ∧
      PropertyNode.read refused = .ok oddRevisions ∧ refused.found = .ok oddRevisions := by
  obtain ⟨node, opened, saved, opens, saves⟩ : ∃ node opened saved,
      openAt ⟨"/var/sync", "notes"⟩ emptyFolder = (.ok node, opened) ∧
        (PropertyNode.replaceAll oddRevisions).on node = (.ok (), saved) := ⟨_, _, _, rfl, rfl⟩
  have inUse : saved.InUse := by
    have replaced := (InUse.opened opens).replaceAll oddRevisions
    rwa [stateAfter, saves] at replaced
  obtain ⟨holds, finds⟩ := (replaced_as_a_whole oddRevisions node).1.ok (by rw [saves])
  rw [saves] at holds finds
  -- Now the disk cannot rename files any more.
  obtain ⟨-, whole, fails⟩ := replaced_as_a_whole .empty
    (saved.withFaults [(.rename, .ofKind .permissionDenied)])
  have moveFails := fails .rename _ (List.mem_singleton.2 rfl) rfl
  obtain ⟨e, refused⟩ := whole.fails moveFails
  obtain ⟨stillHolds, stillFinds⟩ := whole.error e refused
  refine ⟨node, opened, saved, e, _, opens, saves, finds (.opened opens), Prod.ext refused rfl,
    stillHolds.trans holds, (stillFinds moveFails).trans ?_⟩
  rw [found_withFaults inUse]
  exact finds (.opened opens)

/-- Changes that were not flushed are not in the file, so that a node does not hold the same when it is
opened again, whether or not its properties could be replaced in between. -/
theorem unflushed_lost_after_refused_replacement :
    ∃ (node : FileNode) (e : StorageError) (refused : FileNode), node.InUse ∧
      (PropertyNode.replaceAll (.ofList [("b", "2")])).on node = (.error e, refused) ∧
      ¬ ∃ old, PropertyNode.read refused = .ok old ∧ refused.found = .ok old := by
  obtain ⟨node, opened, opens⟩ : ∃ node opened,
      openAt ⟨"/var/sync", "notes"⟩ emptyFolder = (.ok node, opened) := ⟨_, _, rfl⟩
  have inUse := ((InUse.opened opens).set "a" "1").faults
    [(.createTemporary, .ofKind .permissionDenied)]
  cases opens
  refine ⟨_, _, _, inUse, rfl, ?_⟩
  rintro ⟨old, holds, finds⟩
  cases holds
  have same := Except.ok.inj finds
  exact absurd (congrArg Table.size same) (by decide)

end FileNode

end DataSync
