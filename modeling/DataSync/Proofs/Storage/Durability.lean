import DataSync.Proofs.Storage.Replacing
import DataSync.Proofs.Storage.ReopenableNode

/-!
# Durability of nodes

A node in a file keeps its properties in memory, with a mark that they were changed, and on disk.  Beside
a node with one owner runs a ledger of what the calls that succeeded should have made of both.  The node
agrees with it as long as no call puts something else into the file and then reports a failure, which
takes a step that fails after the rename.
-/

namespace DataSync

open DataSync.Action

/-! ## Runs of a node -/

/-- A call of the one owner of a node. -/
inductive NodeCall where
  | set (key value : String)
  | remove (key : String)
  | replaceAll (properties : Properties)
  | clear
  | flush
  | reopen

/-- A call, with the steps of replacing a file that fail while it is made. -/
structure NodeTurn where
  call : NodeCall
  faults : List (ReplaceStep × IoError) := []

/-- The properties that an open node should show, and those that should be found when it is opened the
next time. -/
structure NodeLedger where
  shown : Properties
  kept : Properties

/-- The ledger after a call; one that failed has no effect. -/
def NodeLedger.enter (call : NodeCall) (answer : Except StorageError Unit) (ledger : NodeLedger) :
    NodeLedger :=
  match answer, call with
  | .error _, _ => ledger
  | .ok (), .set key value => { ledger with shown := ledger.shown.insert key value }
  | .ok (), .remove key => { ledger with shown := ledger.shown.erase key }
  | .ok (), .replaceAll properties => { shown := properties, kept := properties }
  | .ok (), .clear => { shown := .empty, kept := .empty }
  | .ok (), .flush => { ledger with kept := ledger.shown }
  | .ok (), .reopen => { ledger with shown := ledger.kept }

/-- There is a file at a path. -/
def Disk.HasFile (path : FilePath) (disk : Disk) : Prop :=
  ∃ file, disk.entry? path = .ok (some (.file file))

namespace FileNode

/-- Drop a node and open it again. -/
def reopen : Action FileNode StorageError Unit :=
  .of fun node => match openAt node.path node.close with
    | (.ok reopened, _) => (.ok (), reopened)
    | (.error e, disk) => (.error e, { node with disk })

end FileNode

def NodeCall.perform : NodeCall → Action FileNode StorageError Unit
  | .set key value => PropertyNode.set key value
  | .remove key => PropertyNode.remove key
  | .replaceAll properties => PropertyNode.replaceAll properties
  | .clear => PropertyNode.clear
  | .flush => PropertyNode.flush
  | .reopen => FileNode.reopen

namespace NodeTurn

/-- Take a turn, and enter it. -/
def take (turn : NodeTurn) (moment : FileNode × NodeLedger) : FileNode × NodeLedger :=
  let node := moment.1.withFaults turn.faults
  (turn.call.perform.stateAfter node, moment.2.enter turn.call (turn.call.perform.on node).1)

theorem take_eq {turn : NodeTurn} {node after : FileNode} {answer : Except StorageError Unit}
    (answered : turn.call.perform.on (node.withFaults turn.faults) = (answer, after))
    (ledger : NodeLedger) : turn.take (node, ledger) = (after, ledger.enter turn.call answer) := by
  simp only [take, stateAfter, answered]

/-- No step after the rename fails in the turn. -/
def Sound (turn : NodeTurn) : Prop :=
  ∀ fault ∈ turn.faults, fault.1.isUpToRename = true

/-- The turn reports a failure, and yet something else is in the file then. -/
def Disturbs (turn : NodeTurn) (node : FileNode) : Prop :=
  ∃ e after, turn.call.perform.on (node.withFaults turn.faults) = (.error e, after) ∧
    FileNode.load after.path after.disk ≠ FileNode.load node.path node.disk

end NodeTurn

/-- A node and its ledger after turns. -/
def afterTurns (turns : List NodeTurn) (moment : FileNode × NodeLedger) : FileNode × NodeLedger :=
  turns.foldl (fun moment turn => turn.take moment) moment

namespace FileNode

variable {path : FilePath} {node after : FileNode} {ledger : NodeLedger} {new : Properties}
  {e : StorageError} {call : NodeCall}

/-- A flush of the node would succeed and leave the disk alone. -/
def SkipsFlush (node : FileNode) : Prop :=
  ∃ faults after, PropertyNode.flush.on (node.withFaults faults) = (.ok (), after) ∧
    after.disk = (node.withFaults faults).disk

/-- The node at a path agrees with its ledger.  If the node has a file, a flush is skipped only when the
properties are in it already.  A node without a file is to be flushed if it has properties.  Calls fail
because of faults of the disk only. -/
structure Durable (path : FilePath) (node : FileNode) (ledger : NodeLedger) : Prop where
  path_eq : node.path = path
  shown : PropertyNode.read node = .ok ledger.shown
  kept : node.found = .ok ledger.kept
  skipped : node.SkipsFlush → node.disk.HasFile path →
    load path node.disk = .ok (ledger.shown, true)
  unwritten : node.SkipsFlush → ¬ node.disk.HasFile path →
    ledger.shown = .empty ∧ load path node.disk = .ok (.empty, false)
  stored : PropertyNode.isStored node = true ↔ node.disk.HasFile path
  succeeds : ∀ call : NodeCall, (call.perform.on (node.withFaults [])).1 = .ok ()

/-! ## What calls do -/

theorem on_flush_of_dirty (dirty : node.dirty = true) :
    PropertyNode.flush.on node = (store node.properties).on node := by
  simp only [PropertyNode.flush, on_of, dirty, if_true]

theorem on_flush_of_clean (clean : node.dirty = false) :
    PropertyNode.flush.on node = (.ok (), node) := by
  simp only [PropertyNode.flush, on_of, clean, Bool.false_eq_true, if_false]

theorem store_eq_error (refused : (store new).on node = (.error e, after)) :
    ∃ disk, after = { node with disk } := by
  rw [on_store] at refused
  split at refused <;> cases refused
  exact ⟨_, rfl⟩

theorem eq_of_store_eq_error (sound : ∀ fault ∈ node.disk.faults, fault.1.isUpToRename = true)
    (refused : (store new).on node = (.error e, after)) : after = node := by
  obtain ⟨_, failed⟩ | ⟨-, _, -, -, moved⟩ :=
    Disk.moveIn_cases node.path (Bytes.ofText (PropertyFile.render new)) node.disk
  · rw [on_store, Disk.replace_eq, on_bind, failed] at refused
    cases refused
    rfl
  · -- The rename is done, and what comes after it succeeds.
    have stillSound : ∀ fault ∈ (node.disk.stamp node.path
        (Bytes.ofText (PropertyFile.render new))).faults, fault.1.isUpToRename = true := by
      rw [Disk.faults_stamp]
      exact sound
    rw [on_store, Disk.replace_eq, on_bind, moved] at refused
    dsimp only at refused
    rw [Disk.on_syncParent_of_sound stillSound] at refused
    cases refused

/-- Only what comes after the rename makes a refusal visible in the file. -/
theorem hidesRefusals (sound : ∀ fault ∈ node.disk.faults, fault.1.isUpToRename = true) :
    ReopenableNode.HidesRefusals node := by
  intro properties e left found refused reopens
  obtain rfl := eq_of_store_eq_error sound refused
  exact reopens

/-! ## The invariant -/

/-- A node agrees with its ledger in memory and on disk, and is marked as changed unless the ledger has
the same for both. -/
structure Settled (path : FilePath) (node : FileNode) (ledger : NodeLedger) : Prop where
  path_eq : node.path = path
  attached : node.Attached
  shown : node.properties = ledger.shown
  kept : load path node.disk = .ok (ledger.kept, node.stored)
  clean : node.dirty = false → ledger.shown = ledger.kept

namespace Settled

theorem withFaults (settled : Settled path node ledger) (faults : List (ReplaceStep × IoError)) :
    Settled path (node.withFaults faults) ledger :=
  ⟨settled.path_eq, ⟨settled.attached.locked, settled.attached.placed⟩, settled.shown,
    settled.kept, settled.clean⟩

/-- A change in memory is marked. -/
theorem changed (settled : Settled path node ledger) (properties : Properties) :
    Settled path { node with properties, dirty := true } { ledger with shown := properties } := by
  refine ⟨settled.path_eq, ⟨settled.attached.locked, settled.attached.placed⟩, rfl,
    settled.kept, ?_⟩
  intro clean
  cases clean

theorem set (settled : Settled path node ledger) (key value : String) :
    Settled path ((PropertyNode.set key value).stateAfter node)
      { ledger with shown := ledger.shown.insert key value } := by
  change Settled path (if node.properties.get? key = some value then node else _) _
  rw [settled.shown]
  split
  · rename_i same
    have unchanged : ledger.shown.insert key value = ledger.shown := by
      apply Table.ext_get?
      intro other
      by_cases here : other = key <;> simp [here, same]
    rw [unchanged]
    exact settled
  · exact settled.changed _

theorem remove (settled : Settled path node ledger) (key : String) :
    Settled path ((PropertyNode.remove key).stateAfter node)
      { ledger with shown := ledger.shown.erase key } := by
  change Settled path (if node.properties.contains key then _ else node) _
  rw [settled.shown]
  split
  · exact settled.changed _
  · rename_i absent
    have unchanged : ledger.shown.erase key = ledger.shown := by
      apply Table.ext_get?
      intro other
      by_cases here : other = key <;> simp_all [Table.contains]
    rw [unchanged]
    exact settled

theorem stored (settled : Settled path node ledger)
    (stores : (store new).on node = (.ok (), after)) :
    Settled path after { shown := new, kept := new } := by
  have attached := settled.attached.store new
  rw [stateAfter, stores] at attached
  obtain ⟨disk, replaces, rfl⟩ := store_eq_ok stores
  obtain rfl := settled.path_eq
  exact ⟨rfl, attached, rfl, load_of_written (Disk.entry?_replace replaces) rfl, fun _ => rfl⟩

theorem flushed (settled : Settled path node ledger)
    (flushes : PropertyNode.flush.on node = (.ok (), after)) :
    Settled path after { ledger with kept := ledger.shown } := by
  cases dirty : node.dirty with
  | true =>
    rw [on_flush_of_dirty dirty, settled.shown] at flushes
    exact settled.stored flushes
  | false =>
    rw [on_flush_of_clean dirty] at flushes
    cases flushes
    refine ⟨settled.path_eq, settled.attached, settled.shown, ?_, fun _ => rfl⟩
    rw [settled.kept, settled.clean dirty]

theorem reopened (settled : Settled path node ledger) :
    ∃ after, FileNode.reopen.on node = (.ok (), after) ∧
      Settled path after { ledger with shown := ledger.kept } := by
  obtain ⟨disk, same, opens⟩ := openAt_close settled.attached
  obtain rfl := settled.path_eq
  rw [settled.kept] at opens same
  refine ⟨{ path := node.path, properties := ledger.kept, dirty := false, stored := node.stored, disk },
    ?_, rfl, attached_of_openAt opens, rfl, same, fun _ => rfl⟩
  simp only [FileNode.reopen, on_of, opens]

/-- Of all calls only those that store properties can fail. -/
theorem store_of_refused (settled : Settled path node ledger)
    (refused : call.perform.on node = (.error e, after)) :
    ∃ new, (store new).on node = (.error e, after) := by
  cases call with
  | set key value => cases refused
  | remove key => cases refused
  | replaceAll properties => exact ⟨properties, refused⟩
  | clear => exact ⟨.empty, refused⟩
  | flush =>
    cases dirty : node.dirty with
    | true => exact ⟨_, (on_flush_of_dirty dirty).symm.trans refused⟩
    | false => cases (on_flush_of_clean dirty).symm.trans refused
  | reopen =>
    obtain ⟨_, reopens, -⟩ := settled.reopened
    cases reopens.symm.trans refused

/-- A call that fails changes nothing but the disk. -/
theorem frame_of_refused (settled : Settled path node ledger)
    (refused : call.perform.on node = (.error e, after)) :
    after.Attached ∧ ∃ disk, after = { node with disk } := by
  obtain ⟨new, refused⟩ := settled.store_of_refused refused
  have attached := settled.attached.store new
  rw [stateAfter, refused] at attached
  exact ⟨attached, store_eq_error refused⟩

theorem succeeded (settled : Settled path node ledger)
    (answered : call.perform.on node = (.ok (), after)) :
    Settled path after (ledger.enter call (.ok ())) := by
  have state : after = call.perform.stateAfter node := by rw [stateAfter, answered]
  cases call with
  | set key value =>
    rw [state]
    exact settled.set key value
  | remove key =>
    rw [state]
    exact settled.remove key
  | replaceAll properties => exact settled.stored answered
  | clear => exact settled.stored answered
  | flush => exact settled.flushed answered
  | reopen =>
    obtain ⟨_, reopens, reopened⟩ := settled.reopened
    cases reopens.symm.trans answered
    exact reopened

theorem take (settled : Settled path node ledger) {turn : NodeTurn}
    (calm : ¬ turn.Disturbs node) :
    Settled path (turn.take (node, ledger)).1 (turn.take (node, ledger)).2 := by
  have before := settled.withFaults turn.faults
  rcases answered : turn.call.perform.on (node.withFaults turn.faults) with ⟨e | ⟨⟩, after⟩
  · -- The ledger stays, so that the node must stay what it was, in memory and in its file.
    obtain ⟨attached, disk, rfl⟩ := before.frame_of_refused answered
    have same : load node.path disk = load node.path node.disk :=
      Classical.byContradiction fun different => calm ⟨e, _, answered, different⟩
    rw [NodeTurn.take_eq answered]
    rw [settled.path_eq, settled.kept] at same
    exact ⟨settled.path_eq, attached, settled.shown, same, settled.clean⟩
  · rw [NodeTurn.take_eq answered]
    exact before.succeeded answered

end Settled

theorem settled_of_openAt {disk opened : Disk} (opens : openAt path disk = (.ok node, opened)) :
    ∃ first stored, load path disk = .ok (first, stored) ∧
      Settled path node { shown := first, kept := first } := by
  have attached := attached_of_openAt opens
  obtain ⟨first, stored, taken, loads, rfl⟩ := openAt_eq_ok opens
  have untouched := (Disk.acquire_eq_ok_true taken).2 path (lockPath_ne path).symm
  exact ⟨first, stored, (load_congr untouched).symm.trans loads, rfl, attached, rfl, loads,
    fun _ => rfl⟩

/-! ## What the invariant comes to -/

theorem stored_iff_of_load {disk : Disk} {properties : Properties} {stored : Bool}
    (loads : load path disk = .ok (properties, stored)) :
    stored = true ↔ disk.HasFile path := by
  simp only [Disk.HasFile, ← Disk.file_eq_ok]
  unfold load at loads
  cases read : disk.file path with
  | error e =>
    rw [read] at loads
    dsimp only at loads
    split at loads <;> cases loads
    simp
  | ok file =>
    rw [read] at loads
    dsimp only at loads
    split at loads
    · cases loads
    · split at loads <;> cases loads
      simp

theorem properties_of_load {disk : Disk} {properties : Properties}
    (loads : load path disk = .ok (properties, false)) : properties = .empty := by
  unfold load at loads
  split at loads
  · split at loads <;> cases loads
    rfl
  · split at loads
    · cases loads
    · split at loads <;> cases loads

theorem Settled.load_of_flush (settled : Settled path node ledger)
    (flushes : PropertyNode.flush.on node = (.ok (), after)) (alone : after.disk = node.disk) :
    load path node.disk = .ok (ledger.shown, node.stored) := by
  cases dirty : node.dirty with
  | false => rw [settled.clean dirty, settled.kept]
  | true =>
    -- A changed node is written, and a disk that was written to has another time.
    rw [on_flush_of_dirty dirty] at flushes
    obtain ⟨disk, replaces, rfl⟩ := store_eq_ok flushes
    obtain ⟨e, refused⟩ | ⟨_, _, -, -, moved⟩ := Disk.replace_cases node.path
      (Bytes.ofText (PropertyFile.render node.properties)) node.disk
    · rw [refused] at replaces
      cases replaces
    · rw [moved] at replaces
      cases replaces
      have clocks : node.disk.clock + 1 = node.disk.clock := congrArg Disk.clock alone
      omega

theorem Settled.load_of_skipped (settled : Settled path node ledger)
    (skips : node.SkipsFlush) : load path node.disk = .ok (ledger.shown, node.stored) := by
  obtain ⟨faults, after, flushes, alone⟩ := skips
  exact (settled.withFaults faults).load_of_flush flushes alone

theorem Settled.durable (settled : Settled path node ledger) : Durable path node ledger := by
  obtain rfl := settled.path_eq
  have hasFile := stored_iff_of_load settled.kept
  refine ⟨rfl, ?_, ?_, ?_, ?_, hasFile, ?_⟩
  · exact congrArg Except.ok settled.shown
  · rw [found_eq_load settled.attached, settled.kept]
    rfl
  · intro skips there
    rw [settled.load_of_skipped skips, hasFile.2 there]
  · intro skips missing
    have unstored : node.stored = false := Bool.eq_false_iff.2 (mt hasFile.1 missing)
    have loads := settled.load_of_skipped skips
    rw [unstored] at loads
    have nothing := properties_of_load loads
    exact ⟨nothing, nothing ▸ loads⟩
  · intro call
    have faultless := settled.withFaults []
    rcases answered : call.perform.on (node.withFaults []) with ⟨e | ⟨⟩, after⟩
    · obtain ⟨new, refused⟩ := faultless.store_of_refused answered
      obtain ⟨stored, stores⟩ := store_of_faultless faultless.attached rfl new
      cases stores.symm.trans refused
    · rfl

theorem Durable.load_eq (durable : Durable path node ledger) (attached : node.Attached) :
    load path node.disk = .ok (ledger.kept, node.stored) := by
  obtain rfl := durable.path_eq
  have found := durable.kept
  rw [found_eq_load attached] at found
  obtain ⟨⟨properties, stored⟩, loads, rfl⟩ := map_eq_ok_iff.1 found
  have same : stored = node.stored := by
    rw [Bool.eq_iff_iff, stored_iff_of_load loads]
    exact durable.stored.symm
  rw [loads, same]

/-- A node that still agrees with its ledger was not disturbed. -/
theorem Settled.not_disturbs (settled : Settled path node ledger) {turn : NodeTurn}
    (durable : Durable path (turn.take (node, ledger)).1 (turn.take (node, ledger)).2) :
    ¬ turn.Disturbs node := by
  rintro ⟨e, after, refused, different⟩
  rw [NodeTurn.take_eq refused] at durable
  obtain ⟨attached, disk, rfl⟩ := (settled.withFaults turn.faults).frame_of_refused refused
  apply different
  obtain rfl := settled.path_eq
  exact (durable.load_eq attached).trans settled.kept.symm

theorem Settled.not_disturbs_of_sound (settled : Settled path node ledger) {turn : NodeTurn}
    (sound : turn.Sound) : ¬ turn.Disturbs node := by
  rintro ⟨e, after, refused, different⟩
  obtain ⟨new, refused⟩ := (settled.withFaults turn.faults).store_of_refused refused
  have stillSound : ∀ fault ∈ (node.withFaults turn.faults).disk.faults,
    fault.1.isUpToRename = true := sound
  obtain rfl := eq_of_store_eq_error stillSound refused
  exact different (load_withFaults turn.faults node)

/-! ## Whole runs -/

/-- The induction is on the turns still to come; what is settled after the first of them is the start
of the rest. -/
theorem Settled.durable_iff (settled : Settled path node ledger) (turns : List NodeTurn) :
    (∀ before, before <+: turns → Durable path (afterTurns before (node, ledger)).1
      (afterTurns before (node, ledger)).2) ↔
    ∀ before turn, before ++ [turn] <+: turns →
      ¬ turn.Disturbs (afterTurns before (node, ledger)).1 := by
  induction turns generalizing node ledger with
  | nil =>
    constructor
    · intro _ before turn isPrefix
      simp at isPrefix
    · intro _ before isPrefix
      obtain rfl := List.prefix_nil.1 isPrefix
      exact settled.durable
  | cons first rest inductionHypothesis =>
    constructor
    · intro durable
      have calm : ¬ first.Disturbs node :=
        settled.not_disturbs (durable [first] (by simp))
      have later := (inductionHypothesis (settled.take calm)).1 fun before isPrefix =>
        durable (first :: before) (List.cons_prefix_cons.2 ⟨rfl, isPrefix⟩)
      intro before turn isPrefix
      cases before with
      | nil =>
        obtain ⟨rfl, -⟩ := List.cons_prefix_cons.1 isPrefix
        exact calm
      | cons head before =>
        obtain ⟨rfl, inRest⟩ := List.cons_prefix_cons.1 isPrefix
        exact later before turn inRest
    · intro undisturbed
      have calm : ¬ first.Disturbs node := undisturbed [] first (by simp)
      have later := (inductionHypothesis (settled.take calm)).2 fun before turn isPrefix =>
        undisturbed (first :: before) turn (List.cons_prefix_cons.2 ⟨rfl, isPrefix⟩)
      intro before isPrefix
      cases before with
      | nil => exact settled.durable
      | cons head before =>
        obtain ⟨rfl, inRest⟩ := List.cons_prefix_cons.1 isPrefix
        exact later before inRest

theorem Settled.after_sound (settled : Settled path node ledger) {turns : List NodeTurn}
    (sound : ∀ turn ∈ turns, turn.Sound) :
    Settled path (afterTurns turns (node, ledger)).1
      (afterTurns turns (node, ledger)).2 := by
  induction turns generalizing node ledger with
  | nil => exact settled
  | cons first rest inductionHypothesis =>
    obtain ⟨firstSound, restSound⟩ := List.forall_mem_cons.1 sound
    have calm := settled.not_disturbs_of_sound firstSound
    exact inductionHypothesis (settled.take calm) restSound

/-- Whatever calls are made of an opened node, it shows at each moment what they made of the properties,
and is opened again with what the last call that succeeded in storing them left, exactly if none of
them reports a failure after it has put something else into the file.  No call does if none of the steps
fails that come after the rename. -/
theorem durable_iff_undisturbed {disk opened : Disk} (opens : openAt path disk = (.ok node, opened))
    (turns : List NodeTurn) :
    ∃ first stored, load path disk = .ok (first, stored) ∧
      let start : FileNode × NodeLedger := (node, { shown := first, kept := first })
      ((∀ before, before <+: turns →
          Durable path (afterTurns before start).1 (afterTurns before start).2) ↔
        ∀ before turn, before ++ [turn] <+: turns → ¬ turn.Disturbs (afterTurns before start).1) ∧
      ((∀ turn ∈ turns, turn.Sound) →
        Durable path (afterTurns turns start).1 (afterTurns turns start).2) := by
  obtain ⟨first, stored, loads, settled⟩ := settled_of_openAt opens
  exact ⟨first, stored, loads, settled.durable_iff turns, fun sound =>
    (settled.after_sound sound).durable⟩

/-- Turns of a node that is changed, flushed in vain, changed again, flushed and opened again. -/
def busyTurns : List NodeTurn :=
  [⟨.set "a" "1", []⟩, ⟨.flush, [(.rename, .ofKind .permissionDenied)]⟩, ⟨.set "b" "2", []⟩,
    ⟨.remove "a", []⟩, ⟨.flush, []⟩, ⟨.set "c" "3", []⟩, ⟨.reopen, []⟩]

theorem durable_after_busyTurns :
    ∃ node opened, openAt ⟨"/var/sync", "notes"⟩ emptyFolder = (.ok node, opened) ∧
      (∀ turn ∈ busyTurns, turn.Sound) ∧
      let moment := afterTurns busyTurns (node, { shown := .empty, kept := .empty })
      Durable ⟨"/var/sync", "notes"⟩ moment.1 moment.2 ∧
        moment.2 = { shown := .ofList [("b", "2")], kept := .ofList [("b", "2")] } := by
  obtain ⟨node, opened, opens⟩ : ∃ node opened,
      openAt ⟨"/var/sync", "notes"⟩ emptyFolder = (.ok node, opened) := ⟨_, _, rfl⟩
  have sound : ∀ turn ∈ busyTurns, turn.Sound := by
    simp [busyTurns, NodeTurn.Sound, ReplaceStep.isUpToRename]
  obtain ⟨first, stored, loads, -, durable⟩ := durable_iff_undisturbed opens busyTurns
  have nothing : load ⟨"/var/sync", "notes"⟩ emptyFolder = .ok (.empty, false) := rfl
  cases nothing.symm.trans loads
  refine ⟨node, opened, opens, sound, durable sound, ?_⟩
  cases opens
  rfl

/-- A node without a file is flushed without getting one as long as it is not changed.  Properties that
were refused because the directory could not be opened after the rename are there when the node is opened
again. -/
theorem new_node_not_durable :
    ∃ node opened, openAt ⟨"/var/sync", "notes"⟩ emptyFolder = (.ok node, opened) ∧
      (PropertyNode.flush.on node = (.ok (), node) ∧
        ¬ ∃ file, node.disk.entry? node.path = .ok (some (.file file))) ∧
      let moment := afterTurns [⟨.replaceAll (.ofList [("b", "2")]),
        [(.openFolder, .ofKind .permissionDenied)]⟩] (node, { shown := .empty, kept := .empty })
      moment.2.kept = .empty ∧ moment.1.found = .ok (.ofList [("b", "2")]) ∧
        ¬ Durable ⟨"/var/sync", "notes"⟩ moment.1 moment.2 := by
  refine ⟨_, _, rfl, ⟨rfl, ?_⟩, rfl, rfl, ?_⟩
  · rintro ⟨file, there⟩
    cases there
  · intro durable
    have same := Except.ok.inj durable.kept
    exact absurd (congrArg Table.size same) (by decide)

end FileNode

end DataSync
