import DataSync.Proofs.Source.Beginning
import DataSync.Proofs.Source.Inventories
import DataSync.Storage.MemoryNode

/-!
# Wiping

A session that refreshes the items here from the other side begins by removing all that are listed.  An
item that vanished in the meantime is no failure, and any other refusal ends the wipe and the beginning.
So the session begins only with none of the listed items left, in whichever order they have their turns,
and nothing but listed items is ever removed.
-/

namespace DataSync

open DataSync.Action

namespace Source

variable {β ν : Type} [Backend β]

/-! ## A wipe -/

/-- How a wipe ends: with all items it was given, or with the first refusal. -/
inductive WipeEnds (luids : List Luid) : List TriedRemoval → Except SourceError Unit → Prop where
  | through {attempts : List TriedRemoval} (all : attempts.map (·.1) = luids)
      (harmless : ∀ attempt ∈ attempts, Harmless attempt.2) : WipeEnds luids attempts (.ok ())
  | stuck {before : List TriedRemoval} (luid : Luid) {e : SourceError}
      (harmless : ∀ attempt ∈ before, Harmless attempt.2) (refused : ¬ Harmless (.error e)) :
      WipeEnds luids (before ++ [(luid, .error e)]) (.error e)

theorem WipeEnds.cons {luids : List Luid} {attempts : List TriedRemoval}
    {answer told : Except SourceError Unit} (luid : Luid) (harmless : Harmless told)
    (ends : WipeEnds luids attempts answer) :
    WipeEnds (luid :: luids) ((luid, told) :: attempts) answer := by
  cases ends with
  | through all others =>
    exact .through (by rw [List.map_cons, all]) (List.forall_mem_cons.2 ⟨harmless, others⟩)
  | stuck last others refused =>
    exact .stuck last (List.forall_mem_cons.2 ⟨harmless, others⟩) refused

section

variable {luids : List Luid} {attempts : List TriedRemoval} {answer : Except SourceError Unit}

theorem WipeEnds.ok_iff (ends : WipeEnds luids attempts answer) :
    answer = .ok () ↔ ∀ attempt ∈ attempts, Harmless attempt.2 := by
  cases ends with
  | through all harmless => exact ⟨fun _ => harmless, fun _ => rfl⟩
  | @stuck before luid e harmless refused =>
    refine ⟨nofun, fun all => absurd (all (luid, .error e) ?_) refused⟩
    exact List.mem_append_right _ List.mem_cons_self

theorem WipeEnds.all_of_ok (ends : WipeEnds luids attempts (.ok ())) : attempts.map (·.1) = luids := by
  cases ends with
  | through all harmless => exact all

theorem WipeEnds.last_of_error {e : SourceError} (ends : WipeEnds luids attempts (.error e)) :
    ∃ luid, attempts.getLast? = some (luid, .error e) := by
  cases ends with
  | stuck luid harmless refused => exact ⟨luid, List.getLast?_concat ..⟩

end

theorem on_wipe_cons_of_harmless {luid : Luid} {told : Except SourceError Unit} {backend after : β}
    (removed : (Backend.remove luid).on backend = (told, after)) (harmless : Harmless told)
    (rest : List Luid) : (wipe (luid :: rest)).on backend = (wipe rest).on after := by
  obtain rfl | ⟨missing, rfl⟩ := harmless <;> simp only [wipe, on_of, removed]

theorem on_wipe_cons_of_refused {luid : Luid} {e : SourceError} {backend after : β}
    (removed : (Backend.remove luid).on backend = (.error e, after)) (refused : ¬ Harmless (.error e))
    (rest : List Luid) : (wipe (luid :: rest)).on backend = (.error e, after) := by
  simp only [wipe, on_of, removed]
  cases e with
  | notFound missing => exact absurd (.inr ⟨missing, rfl⟩) refused
  | _ => rfl

/-- A wipe goes on with later items where it is through with earlier ones. -/
theorem on_wipe_append {first : List Luid} {backend after : β}
    (through : (wipe first).on backend = (.ok (), after)) (second : List Luid) :
    (wipe (first ++ second)).on backend = (wipe second).on after := by
  induction first generalizing backend with
  | nil =>
    cases through
    rfl
  | cons luid rest inductionHypothesis =>
    simp only [List.cons_append, wipe, on_of] at through ⊢
    rcases removed : (Backend.remove luid).on backend with ⟨e | ⟨⟩, left⟩
    · rw [removed] at through
      cases e with
      | notFound _ => exact inductionHypothesis through
      | _ => cases through
    · rw [removed] at through
      exact inductionHypothesis through

/-- A wipe is made of removals in turn, up to the first one that is refused. -/
theorem on_wipe (luids : List Luid) (backend : β) :
    ∃ attempts : List TriedRemoval, attempts.map (·.1) <+: luids ∧
      inTurn Backend.remove (attempts.map (·.1)) backend =
        (attempts, (wipe luids).stateAfter backend) ∧
      WipeEnds luids attempts ((wipe luids).on backend).1 := by
  induction luids generalizing backend with
  | nil => exact ⟨[], List.nil_prefix, rfl, .through rfl nofun⟩
  | cons luid rest inductionHypothesis =>
    rcases removed : (Backend.remove luid).on backend with ⟨told, after⟩
    by_cases harmless : Harmless told
    · obtain ⟨attempts, within, turns, ends⟩ := inductionHypothesis after
      refine ⟨(luid, told) :: attempts, List.prefix_cons_inj _ |>.2 within, ?_, ?_⟩
      · rw [List.map_cons, inTurn_cons, removed, turns, stateAfter, stateAfter,
          on_wipe_cons_of_harmless removed harmless]
      · rw [on_wipe_cons_of_harmless removed harmless]
        exact ends.cons luid harmless
    · obtain ⟨e, rfl⟩ : ∃ e, told = .error e := by
        cases told with
        | ok _ => exact absurd (.inl rfl) harmless
        | error e => exact ⟨e, rfl⟩
      refine ⟨[(luid, .error e)], ⟨rest, rfl⟩, ?_, ?_⟩
      · rw [List.map_singleton, inTurn_cons, removed, stateAfter,
          on_wipe_cons_of_refused removed harmless]
        rfl
      · rw [on_wipe_cons_of_refused removed harmless]
        exact WipeEnds.stuck luid (List.forall_mem_nil _) harmless

/-! ## Beginning with a wipe -/

variable [PropertyNode ν] {source : Source β ν} {order : RevisionMap → List Luid}
  {opened listed wiped : β} {listing : RevisionMap} {answer : Except SourceError Unit}

/-- The revisions of the last committed session can be loaded, if any are kept. -/
def Loads {β ν : Type} [PropertyNode ν] (source : Source β ν) : Prop :=
  ∀ tracking, source.tracking = some tracking →
    ∃ previous, RevisionStore.load tracking.node = .ok previous

omit [Backend β] in
theorem on_loadPrevious_of_loads (loads : source.Loads) (mode : SyncMode) (backend : β) :
    ∃ tracking, tracking.map (·.node) = source.tracking.map (·.node) ∧
      loadPrevious.on { source.cleared mode with backend, isOpen := true } =
        (.ok (), { source.cleared mode with backend, tracking, isOpen := true }) := by
  cases tracked : source.tracking with
  | none =>
    refine ⟨none, rfl, ?_⟩
    simp only [loadPrevious, on_of, cleared, tracked, Option.map_none]
  | some tracking =>
    obtain ⟨previous, loaded⟩ := loads tracking tracked
    refine ⟨some { node := tracking.node, previous }, rfl, ?_⟩
    rw [on_loadPrevious_cleared tracked, loaded]
    rfl

/-- Begin a session with a wipe in which the listed items have their turns in a given order. -/
def beginWiping (order : RevisionMap → List Luid) : Action (Source β ν) SourceError ChangeSet := do
  modify (cleared .refreshFromRemote)
  noting do
    onBackend Backend.openItems
    modify fun source => { source with isOpen := true }
    loadPrevious
    let revisions ← onBackend Backend.list
    onBackend (wipe (order revisions))
    return .empty

/-- A refresh is a wipe in the order of the identifiers. -/
theorem on_beginSync_refresh (source : Source β ν) :
    (beginSync .refreshFromRemote).on source = (beginWiping (·.keys)).on source := by
  simp only [on_beginSync (show SyncMode.refreshFromRemote.isEnabled = true from rfl), on_noting,
    on_detectChanges, beginWiping, on_bind, on_modify, on_onBackend]
  rcases Backend.openItems.on (source.cleared .refreshFromRemote).backend with ⟨e | ⟨⟩, opened⟩
  · rfl
  dsimp only
  obtain ⟨previous, frame⟩ := loadPrevious_frame
    { source.cleared .refreshFromRemote with backend := opened, isOpen := true }
  rcases loaded : loadPrevious.on
    { source.cleared .refreshFromRemote with backend := opened, isOpen := true } with ⟨e | ⟨⟩, after⟩
  · rfl
  -- Loading does not change that the session is one with a wipe.
  have wipes : after.mode.wipesItems = true := by
    simp only [stateAfter, loaded] at frame
    rw [frame]
    rfl
  dsimp only
  rcases Backend.list.on after.backend with ⟨e | listing, listed⟩
  · rfl
  simp only [wipes, if_true]
  rcases (wipe listing.keys).on listed with ⟨e | ⟨⟩, wiped⟩ <;> rfl

theorem on_beginWiping (order : RevisionMap → List Luid) (loads : source.Loads)
    (opens : Backend.openItems.on source.backend = (.ok (), opened))
    (lists : Backend.list.on opened = (.ok listing, listed))
    (wipes : (wipe (order listing)).on listed = (answer, wiped)) :
    ∃ after, (beginWiping order).on source = (answer.map fun _ => .empty, after) ∧
      after.backend = wiped ∧ after.current = .empty ∧
      after.tracking.map (·.node) = source.tracking.map (·.node) := by
  have opening : Backend.openItems.on (source.cleared .refreshFromRemote).backend =
      (.ok (), opened) := opens
  obtain ⟨tracking, sameNode, loading⟩ := on_loadPrevious_of_loads loads .refreshFromRemote opened
  simp only [beginWiping, on_bind, on_modify, on_noting, on_onBackend, opening, loading, lists, wipes]
  cases answer with
  | error e =>
    exact ⟨_, rfl, note_backend e _, note_current e _, by rw [note_tracking]; exact sameNode⟩
  | ok _ => exact ⟨_, rfl, rfl, rfl, sameNode⟩

/-- A session that begins with a wipe begins with no changes and no revisions exactly if no removal that
was tried was refused; one that fails does so with the first refusal.  Then none of the listed items is
left, whichever of them vanished meanwhile and in whichever order they had their turns.  In any case the
node with the committed revisions stays as it is, and no items go but listed ones and those that others
take away. -/
theorem refresh_wipes_listed_or_fails (source : Source β ν) (order : RevisionMap → List Luid)
    (inventory : Inventory β) (ordered : (order listing).Perm listing.keys)
    (isSound : inventory.sound source.backend) (loads : source.Loads)
    (opens : Backend.openItems.on source.backend = (.ok (), opened))
    (lists : Backend.list.on opened = (.ok listing, listed)) :
    (beginSync .refreshFromRemote).on source = (beginWiping (·.keys)).on source ∧
    ∃ answer attempts after, (beginWiping order).on source = (answer, after) ∧
      attempts.map (·.1) <+: order listing ∧
      inTurn Backend.remove (attempts.map (·.1)) listed = (attempts, after.backend) ∧
      (answer = .ok .empty ∧ after.current = .empty ↔
        ∀ attempt ∈ attempts, Harmless attempt.2) ∧
      (∀ changes, answer = .ok changes → changes = .empty ∧
        ∀ luid ∈ listing.keys, ¬ inventory.holds after.backend luid) ∧
      (∀ e, answer = .error e → ∃ luid, attempts.getLast? = some (luid, .error e)) ∧
      after.tracking.map (·.node) = source.tracking.map (·.node) ∧
      ∀ luid ∉ listing.keys, ¬ inventory.fleeting luid → inventory.holds source.backend luid →
        inventory.holds after.backend luid := by
  obtain ⟨attempts, within, turns, ends⟩ := on_wipe (order listing) listed
  rcases wipes : (wipe (order listing)).on listed with ⟨answer, wiped⟩
  rw [stateAfter, wipes] at turns
  rw [wipes] at ends
  obtain ⟨after, begun, rfl, nothing, sameNode⟩ := on_beginWiping order loads opens lists wipes
  have soundOpened : inventory.sound opened := by
    have kept := inventory.sound_open source.backend isSound
    rwa [stateAfter, opens] at kept
  have soundListed : inventory.sound listed := by
    have kept := inventory.sound_list opened soundOpened
    rwa [stateAfter, lists] at kept
  refine ⟨on_beginSync_refresh source, _, attempts, after, begun, within, turns, ?_, ?_, ?_, sameNode, ?_⟩
  · rw [← ends.ok_iff]
    cases answer <;> simp [Except.map, nothing]
  · intro changes succeeded
    cases answer with
    | error e => cases succeeded
    | ok _ =>
      cases succeeded
      refine ⟨rfl, fun luid member => ?_⟩
      -- Every listed item had its turn, and all went well.
      rw [← ordered.mem_iff, ← ends.all_of_ok] at member
      obtain ⟨attempt, tried, rfl⟩ := List.mem_map.1 member
      have inTurns : attempt ∈ (inTurn Backend.remove (attempts.map (·.1)) listed).1 := by rwa [turns]
      have gone := inventory.gone_after_removals soundListed inTurns (ends.ok_iff.1 rfl attempt tried)
      rwa [turns] at gone
  · intro e failed
    cases answer with
    | ok _ => cases failed
    | error _ =>
      cases failed
      exact ends.last_of_error
  · intro luid unlisted lasting held
    have heldOpened := inventory.kept_by_open isSound lasting held
    rw [stateAfter, opens] at heldOpened
    have heldListed := inventory.kept_by_list soundOpened lasting heldOpened
    rw [stateAfter, lists] at heldListed
    have untried : luid ∉ attempts.map (·.1) := fun tried =>
      unlisted (ordered.mem_iff.1 (within.subset tried))
    have heldAfter := inventory.kept_by_removals soundListed untried lasting heldListed
    rwa [turns] at heldAfter

/-- Three items, of which one vanishes after the listing, and of which one was there when the last session
was committed. -/
def fleetingNotes : Source ScriptedBackend MemoryNode :=
  .fresh
    { memory := ({ name := "memo" } : MemoryBackend).withItems [("1", [97]), ("2", [98]), ("3", [99])],
      vanishing := ["2"] }
    (some (.holding "notes" (.ofList [("1", "1")])))

theorem fleeting_notes_wiped_in_reverse :
    ∃ opened listing listed,
      Backend.openItems.on fleetingNotes.backend = (.ok (), opened) ∧
      Backend.list.on opened = (.ok listing, listed) ∧ listing.keys = ["1", "2", "3"] ∧
      (ScriptedBackend.inventory ["2"]).sound fleetingNotes.backend ∧ fleetingNotes.Loads ∧
      ∃ after, (beginWiping (·.keys.reverse)).on fleetingNotes = (.ok .empty, after) ∧
        (∀ luid ∈ listing.keys, ¬ after.backend.memory.Has luid) ∧
        after.tracking.map (·.node) = fleetingNotes.tracking.map (·.node) := by
  have isSound : (ScriptedBackend.inventory ["2"]).sound fleetingNotes.backend :=
    ⟨nofun, List.Subset.refl _⟩
  have loads : fleetingNotes.Loads := fun tracking _ => ⟨tracking.node.properties, rfl⟩
  obtain ⟨-, answer, attempts, after, begun, -, -, -, succeeded, -, sameNode, -⟩ :=
    refresh_wipes_listed_or_fails fleetingNotes (·.keys.reverse) (ScriptedBackend.inventory ["2"])
      (List.reverse_perm _) isSound loads rfl rfl
  have through : ((beginWiping (·.keys.reverse)).on fleetingNotes).1 = .ok .empty := by rfl
  rw [begun] at through
  obtain ⟨-, gone⟩ := succeeded _ through
  exact ⟨_, _, _, rfl, rfl, by decide +kernel, isSound, loads, after, through ▸ begun, gone, sameNode⟩

end Source

end DataSync
