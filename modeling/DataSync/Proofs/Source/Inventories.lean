import DataSync.Proofs.InTurn
import DataSync.Proofs.Source.MemoryItems
import DataSync.Proofs.Source.NewFiles
import DataSync.Proofs.Storage.Folders
import DataSync.Rehearsal.ScriptedBackend

/-!
# Inventories

What the items of a backend have to do with its calls, for backends whose items others take away
meanwhile as well: which items are gone after a removal and which are still there.  From that follows
what is left after removals in turn.
-/

namespace DataSync

open DataSync.Action

/-- The answer to a removal that a wipe goes on after: the item was removed or is not there. -/
def Harmless (answer : Except SourceError Unit) : Prop :=
  answer = .ok () ∨ ∃ missing, answer = .error (.notFound missing)

/-- The items that a backend holds in a state, and what it promises about them.  A removal takes away the
item that it is made for, and says that there is none only if there is none.  Beyond that neither
removing nor opening nor listing takes away items, except that others may take away fleeting ones at any
time.  The promise is about sound states, of which calls lead to sound ones only. -/
structure Inventory (β : Type) [Backend β] where
  sound : β → Prop
  holds : β → Luid → Prop
  fleeting : Luid → Prop
  sound_open : (Backend.openItems (β := β)).Keeps sound
  sound_list : (Backend.list (β := β)).Keeps sound
  sound_remove : ∀ luid, (Backend.remove (β := β) luid).Keeps sound
  kept_by_open : ∀ {backend luid}, sound backend → ¬ fleeting luid → holds backend luid →
    holds (Backend.openItems.stateAfter backend) luid
  kept_by_list : ∀ {backend luid}, sound backend → ¬ fleeting luid → holds backend luid →
    holds (Backend.list.stateAfter backend) luid
  kept_by_remove : ∀ {backend luid other}, sound backend → other ≠ luid → ¬ fleeting other →
    holds backend other → holds ((Backend.remove luid).stateAfter backend) other
  held_before_remove : ∀ {backend luid other}, sound backend →
    holds ((Backend.remove luid).stateAfter backend) other → holds backend other
  gone : ∀ {backend luid}, sound backend → Harmless ((Backend.remove luid).on backend).1 →
    ¬ holds ((Backend.remove luid).stateAfter backend) luid

/-- An item whose removal was tried, and what the backend answered. -/
abbrev TriedRemoval := Luid × Except SourceError Unit

/-! ## Removals in turn -/

namespace Inventory

variable {β : Type} [Backend β] (inventory : Inventory β) {backend : β} {luid : Luid}

theorem held_before_removals (luids : List Luid) (isSound : inventory.sound backend)
    (held : inventory.holds (inTurn Backend.remove luids backend).2 luid) :
    inventory.holds backend luid := by
  induction luids generalizing backend with
  | nil => exact held
  | cons first rest inductionHypothesis =>
    have between := inductionHypothesis (inventory.sound_remove first backend isSound) held
    exact inventory.held_before_remove isSound between

theorem kept_by_removals {luids : List Luid} (isSound : inventory.sound backend)
    (other : luid ∉ luids) (lasting : ¬ inventory.fleeting luid)
    (held : inventory.holds backend luid) :
    inventory.holds (inTurn Backend.remove luids backend).2 luid := by
  induction luids generalizing backend with
  | nil => exact held
  | cons first rest inductionHypothesis =>
    obtain ⟨notFirst, notLater⟩ := not_or.1 (mt List.mem_cons.2 other)
    have kept := inventory.kept_by_remove isSound notFirst lasting held
    exact inductionHypothesis (inventory.sound_remove first backend isSound) notLater kept

/-- An item whose removal was harmless is gone, whatever becomes of others later. -/
theorem gone_after_removals {luids : List Luid} {attempt : TriedRemoval}
    (isSound : inventory.sound backend) (tried : attempt ∈ (inTurn Backend.remove luids backend).1)
    (harmless : Harmless attempt.2) :
    ¬ inventory.holds (inTurn Backend.remove luids backend).2 attempt.1 := by
  induction luids generalizing backend with
  | nil => cases tried
  | cons first rest inductionHypothesis =>
    have soundAfter := inventory.sound_remove first backend isSound
    rw [inTurn_cons] at tried
    obtain rfl | later := List.mem_cons.1 tried
    · intro held
      have between := inventory.held_before_removals rest soundAfter held
      exact inventory.gone isSound harmless between
    · exact inductionHypothesis soundAfter later

end Inventory

/-! ## Items that nobody else takes away -/

section

variable {β : Type}

/-- How a removal goes if nobody else takes away items: it is refused, or the item is taken away, or there
is none. -/
inductive Removal (holds : β → Luid → Prop) (discard : Luid → β → β) (luid : Luid) (backend : β) :
    Except SourceError Unit × β → Prop where
  | refused {e : SourceError} (harmful : ¬ Harmless (.error e)) :
    Removal holds discard luid backend (.error e, backend)
  | done : Removal holds discard luid backend (.ok (), discard luid backend)
  | missing (absent : ¬ holds backend luid) :
    Removal holds discard luid backend (.error (.notFound luid), backend)

variable {holds : β → Luid → Prop} {discard : Luid → β → β}
  (discards : ∀ {backend luid other}, holds (discard luid backend) other ↔
    other ≠ luid ∧ holds backend other)
  {luid other : Luid} {backend : β} {result : Except SourceError Unit × β}

include discards in
theorem Removal.holds_other_iff (removal : Removal holds discard luid backend result)
    (different : other ≠ luid) : holds result.2 other ↔ holds backend other := by
  cases removal with
  | refused _ => rfl
  | done => exact discards.trans (and_iff_right different)
  | missing _ => rfl

include discards in
theorem Removal.held_before (removal : Removal holds discard luid backend result)
    (held : holds result.2 other) : holds backend other := by
  cases removal with
  | refused _ => exact held
  | done => exact (discards.1 held).2
  | missing _ => exact held

include discards in
theorem Removal.gone (removal : Removal holds discard luid backend result)
    (harmless : Harmless result.1) : ¬ holds result.2 luid := by
  cases removal with
  | refused harmful => exact absurd harmless harmful
  | done => exact fun held => (discards.1 held).1 rfl
  | missing absent => exact absent

/-- The inventory of a backend of which nobody else takes away items. -/
def Inventory.lasting [Backend β] (holds : β → Luid → Prop) (discard : Luid → β → β)
    (discards : ∀ {backend luid other}, holds (discard luid backend) other ↔
      other ≠ luid ∧ holds backend other)
    (removal : ∀ luid backend, Removal holds discard luid backend ((Backend.remove luid).on backend))
    (opens : ∀ {backend luid}, holds backend luid → holds (Backend.openItems.stateAfter backend) luid)
    (lists : ∀ {backend luid}, holds backend luid → holds (Backend.list.stateAfter backend) luid) :
    Inventory β where
  sound _ := True
  holds := holds
  fleeting _ := False
  sound_open _ _ := trivial
  sound_list _ _ := trivial
  sound_remove _ _ _ := trivial
  kept_by_open _ _ held := opens held
  kept_by_list _ _ held := lists held
  kept_by_remove _ different _ held := ((removal _ _).holds_other_iff discards different).2 held
  held_before_remove _ held := (removal _ _).held_before discards held
  gone _ harmless := (removal _ _).gone discards harmless

end

/-! ## Items in memory -/

namespace MemoryBackend

variable {backend : MemoryBackend} {luid other : Luid}

def Has (backend : MemoryBackend) (luid : Luid) : Prop :=
  backend.items.contains luid = true

theorem has_discard_iff : (backend.discard luid).Has other ↔ other ≠ luid ∧ backend.Has other := by
  simp only [Has, Table.contains, discard, Table.get?_erase]
  split <;> simp_all

theorem has_open (has : backend.Has luid) : (Backend.openItems.stateAfter backend).Has luid := by
  simp only [stateAfter, Backend.openItems, on_of]
  split <;> exact has

theorem stateAfter_list (backend : MemoryBackend) :
    (Backend.list (β := MemoryBackend)).stateAfter backend = backend := by
  by_cases ready : backend.Ready
  · rw [stateAfter, on_list ready]
  · obtain ⟨e, refused⟩ := on_check_of_not_ready ready
    simp [stateAfter, Backend.list, on_bind, refused]

theorem on_check_harmful (unready : ¬ backend.Ready) :
    ∃ e, ¬ Harmless (.error e) ∧ check.on backend = (.error e, backend) := by
  simp only [check, on_of]
  cases works : backend.failsStorage with
  | some reason => exact ⟨_, by simp [Harmless], rfl⟩
  | none =>
    have isClosed : backend.isOpen = false := by simpa [Ready, works] using unready
    exact ⟨.notOpen backend.name, by simp [Harmless], by simp [isClosed]⟩

theorem removal (luid : Luid) (backend : MemoryBackend) :
    Removal Has discard luid backend ((Backend.remove luid).on backend) := by
  by_cases ready : backend.Ready
  · rw [on_remove luid ready]
    split
    · exact .refused (by simp [Harmless])
    · split
      · exact .done
      · rename_i absent
        exact .missing absent
  · obtain ⟨e, harmful, refused⟩ := on_check_harmful ready
    simp only [Backend.remove, on_bind, refused]
    exact .refused harmful

def inventory : Inventory MemoryBackend :=
  .lasting Has discard has_discard_iff removal has_open fun has => by rwa [stateAfter_list]

end MemoryBackend

/-! ## Items in files -/

namespace FileItems

variable {items : FileItems} {luid other : Luid}

/-- There is something of this name in the directory. -/
def Has (items : FileItems) (luid : Luid) : Prop :=
  ∃ content, items.disk.folders.get? items.folder = some content ∧ content.contains luid = true

theorem Has.of_retains (has : items.Has luid) {after : FileItems}
    (sameFolder : after.folder = items.folder) (retains : items.disk.Retains after.disk) : after.Has luid := by
  obtain ⟨content, there, named⟩ := has
  obtain ⟨grown, thereAfter, more⟩ := retains _ _ there
  exact ⟨grown, sameFolder ▸ thereAfter, more _ named⟩

/-- The directory without a name. -/
def discard (luid : Luid) (items : FileItems) : FileItems :=
  { items with disk := items.disk.drop ⟨items.folder, luid⟩ }

theorem has_discard_iff : (items.discard luid).Has other ↔ other ≠ luid ∧ items.Has other := by
  unfold Has discard Disk.drop
  cases there : items.disk.folders.get? items.folder with
  | none => simp [there]
  | some content =>
    by_cases same : other = luid <;> simp [Table.contains, same]

theorem on_onDisk_of_error {α : Type} {failure : IoError → SourceError} {action : Action Disk IoError α}
    {e : IoError} {after : Disk} (failed : action.on items.disk = (.error e, after)) :
    (onDisk failure action).on items = (.error (failure e), { items with disk := after }) := by
  rw [onDisk, on_within, on_mapError, failed]
  rfl

theorem stateAfter_list (items : FileItems) : list.stateAfter items = items := by
  cases opened : items.isOpen with
  | false =>
    simp only [stateAfter, list, on_bind, check, on_of, opened, Bool.false_eq_true, if_false]
  | true =>
    simp only [stateAfter, list, on_bind, on_check opened, on_get, ask, onDisk, on_within, on_mapError,
      on_of]
    cases openFolder items.folder items.disk <;> rfl

theorem stateAfter_open (items : FileItems) :
    ∃ isOpen allocator, Backend.openItems.stateAfter items =
      { items with
        disk := (Disk.createFolders items.folder).stateAfter items.disk, isOpen, allocator } := by
  rcases created : (Disk.createFolders items.folder).on items.disk with ⟨e | ⟨⟩, disk⟩
  · have failed : (onDisk .io (Disk.createFolders items.folder)).on items = (.error (.io e), _) :=
      on_onDisk_of_error created
    refine ⟨items.isOpen, items.allocator, ?_⟩
    simp only [stateAfter, Backend.openItems, on_bind, on_get, failed, created]
  · have done : (onDisk .io (Disk.createFolders items.folder)).on items = (.ok (), _) :=
      on_onDisk_of_ok created
    have listed := stateAfter_list { items with isOpen := true, disk }
    rcases answer : list.on { items with isOpen := true, disk } with ⟨e | revisions, after⟩ <;>
      rw [stateAfter, answer] at listed <;> subst listed
    · refine ⟨true, items.allocator, ?_⟩
      simp only [stateAfter, Backend.openItems, on_bind, on_get, done, on_modify, created, answer]
    · refine ⟨true, .seeded revisions.keys, ?_⟩
      simp only [stateAfter, Backend.openItems, on_bind, on_get, done, on_modify, created, answer]

theorem has_open (has : items.Has luid) : (Backend.openItems.stateAfter items).Has luid := by
  obtain ⟨isOpen, allocator, opened⟩ := stateAfter_open items
  rw [opened]
  exact has.of_retains rfl (Disk.retains_createFolders items.disk items.folder)

/-- A file is only said to be missing if there is nothing of its name. -/
theorem not_has_of_missing {e : IoError} (failed : items.disk.file ⟨items.folder, luid⟩ = .error e)
    (kind : e.kind = .notFound) : ¬ items.Has luid := by
  rintro ⟨content, there, named⟩
  obtain ⟨entry, found⟩ := Option.isSome_iff_exists.1 named
  simp only [Disk.file, Disk.entry?, Disk.folder, there] at failed
  split at failed
  · cases failed
    cases kind
  · split at failed
    · cases failed
      cases kind
    · rw [Except.map, found] at failed
      cases entry with
      | file _ => cases failed
      | directory =>
        cases failed
        cases kind

theorem removal (luid : Luid) (items : FileItems) :
    Removal Has discard luid items ((Backend.remove luid).on items) := by
  cases opened : items.isOpen with
  | false =>
    simp only [Backend.remove, on_bind, check, on_of, opened, Bool.false_eq_true, if_false]
    exact .refused (by simp [Harmless])
  | true =>
    cases usable : isUsable luid with
    | false =>
      simp only [Backend.remove, on_bind, on_check opened, path, on_of, usable, Bool.false_eq_true,
        if_false]
      exact .refused (by simp [Harmless])
    | true =>
      simp only [Backend.remove, on_bind, on_check opened, on_path usable]
      cases found : items.disk.file ⟨items.folder, luid⟩ with
      | ok file =>
        have removed : (Disk.remove ⟨items.folder, luid⟩).on items.disk =
            (.ok (), items.disk.drop ⟨items.folder, luid⟩) := by
          rw [Disk.remove, on_of, found]
        rw [on_onDisk_of_ok removed]
        exact .done
      | error e =>
        have failed : (Disk.remove ⟨items.folder, luid⟩).on items.disk = (.error e, items.disk) := by
          rw [Disk.remove, on_of, found]
        rw [on_onDisk_of_error failed, missing]
        split
        · rename_i kind
          exact .missing (not_has_of_missing found kind)
        · exact .refused (by simp [Harmless])

def inventory : Inventory FileItems :=
  .lasting Has discard has_discard_iff removal has_open fun has => (stateAfter_list _).symm ▸ has

end FileItems

/-! ## Items that vanish -/

namespace ScriptedBackend

variable {luid other : Luid} {vanishing : List Luid}

/-- No removal is scripted to fail as if the item were not there, and no others are going to vanish. -/
structure Sound (vanishing : List Luid) (backend : ScriptedBackend) : Prop where
  refusing : ∀ failure ∈ backend.failures, failure.1 = .removing → ¬ Harmless (.error failure.2)
  vanish : backend.vanishing ⊆ vanishing

theorem on_scripted (call : BackendCall) (backend : ScriptedBackend) :
    (scripted call).on backend = (.ok (), backend) ∨
      ∃ e failures, (call, e) ∈ backend.failures ∧ failures ⊆ backend.failures ∧
        (scripted call).on backend = (.error e, { backend with failures }) := by
  simp only [scripted, on_of]
  cases found : backend.failures.find? (·.1 = call) with
  | none => exact .inl rfl
  | some failure =>
    obtain ⟨kind, e⟩ := failure
    obtain rfl : kind = call := by simpa using List.find?_some found
    exact .inr ⟨e, _, List.mem_of_find?_eq_some found, List.filter_sublist.subset, rfl⟩

theorem Sound.of_fewer {backend : ScriptedBackend} (isSound : backend.Sound vanishing)
    {failures : List (BackendCall × SourceError)} (fewer : failures ⊆ backend.failures) :
    Sound vanishing { backend with failures } :=
  ⟨fun failure member => isSound.refusing failure (fewer member), isSound.vanish⟩

theorem has_discards {luids : List Luid} {memory : MemoryBackend} (stays : luid ∉ luids)
    (has : memory.Has luid) :
    (luids.foldl (fun memory luid => memory.discard luid) memory).Has luid := by
  induction luids generalizing memory with
  | nil => exact has
  | cons first rest inductionHypothesis =>
    obtain ⟨notFirst, notLater⟩ := not_or.1 (mt List.mem_cons.2 stays)
    exact inductionHypothesis notLater (MemoryBackend.has_discard_iff.2 ⟨notFirst, has⟩)

/-- A call that is not scripted to fail is one of the backend in memory. -/
theorem on_call {α : Type} (call : BackendCall) (action : Action MemoryBackend SourceError α)
    (backend : ScriptedBackend) :
    (scripted call >>= fun _ => inMemory action).on backend =
        ((action.on backend.memory).1, { backend with memory := action.stateAfter backend.memory }) ∨
      ∃ e failures, (call, e) ∈ backend.failures ∧ failures ⊆ backend.failures ∧
        (scripted call >>= fun _ => inMemory action).on backend =
          (.error e, { backend with failures }) := by
  obtain works | ⟨e, failures, member, fewer, fails⟩ := on_scripted call backend
  · exact .inl (by rw [on_bind, works]; rfl)
  · exact .inr ⟨e, failures, member, fewer, by rw [on_bind, fails]⟩

theorem stateAfter_list (backend : ScriptedBackend) :
    (∃ failures, failures ⊆ backend.failures ∧
      (Backend.list (β := ScriptedBackend)).stateAfter backend = { backend with failures }) ∨
    (Backend.list (β := ScriptedBackend)).stateAfter backend =
      { backend with
        memory := backend.vanishing.foldl (fun memory luid => memory.discard luid) backend.memory
        vanishing := [] } := by
  obtain works | ⟨e, failures, member, fewer, fails⟩ := on_scripted .listing backend
  · have listing := MemoryBackend.stateAfter_list backend.memory
    rcases answer : (Backend.list (β := MemoryBackend)).on backend.memory with ⟨e | revisions, after⟩ <;>
      rw [stateAfter, answer] at listing <;> subst listing
    · refine .inl ⟨_, List.Subset.refl _, ?_⟩
      simp only [stateAfter, Backend.list, on_bind, works, inMemory, on_within] at answer ⊢
      rw [answer]
    · refine .inr ?_
      simp only [stateAfter, Backend.list, on_bind, works, inMemory, on_within] at answer ⊢
      rw [answer]
      rfl
  · refine .inl ⟨failures, fewer, ?_⟩
    simp only [stateAfter, Backend.list, on_bind, fails]

theorem on_open (backend : ScriptedBackend) :
    Backend.openItems.on backend = ((Backend.openItems.on backend.memory).1,
        { backend with memory := Backend.openItems.stateAfter backend.memory }) ∨
      ∃ e failures, (.opening, e) ∈ backend.failures ∧ failures ⊆ backend.failures ∧
        Backend.openItems.on backend = (.error e, { backend with failures }) :=
  on_call .opening Backend.openItems backend

theorem on_remove (luid : Luid) (backend : ScriptedBackend) :
    (Backend.remove luid).on backend = (((Backend.remove luid).on backend.memory).1,
        { backend with memory := (Backend.remove luid).stateAfter backend.memory }) ∨
      ∃ e failures, (.removing, e) ∈ backend.failures ∧ failures ⊆ backend.failures ∧
        (Backend.remove luid).on backend = (.error e, { backend with failures }) :=
  on_call .removing (Backend.remove luid) backend

/-- The items that are going to vanish are the ones that others take away. -/
def inventory (vanishing : List Luid) : Inventory ScriptedBackend where
  sound := Sound vanishing
  holds backend := backend.memory.Has
  fleeting luid := luid ∈ vanishing
  sound_open backend isSound := by
    obtain opened | ⟨e, failures, -, fewer, failed⟩ := on_open backend
    · rw [stateAfter, opened]
      exact ⟨isSound.refusing, isSound.vanish⟩
    · rw [stateAfter, failed]
      exact isSound.of_fewer fewer
  sound_list backend isSound := by
    obtain ⟨failures, fewer, listed⟩ | listed := stateAfter_list backend <;> rw [listed]
    · exact isSound.of_fewer fewer
    · exact ⟨isSound.refusing, List.nil_subset _⟩
  sound_remove luid backend isSound := by
    obtain removed | ⟨e, failures, -, fewer, failed⟩ := on_remove luid backend
    · rw [stateAfter, removed]
      exact ⟨isSound.refusing, isSound.vanish⟩
    · rw [stateAfter, failed]
      exact isSound.of_fewer fewer
  kept_by_open {backend luid} _ _ has := by
    obtain opened | ⟨e, failures, -, -, failed⟩ := on_open backend
    · rw [stateAfter, opened]
      exact MemoryBackend.has_open has
    · rwa [stateAfter, failed]
  kept_by_list {backend luid} isSound lasting has := by
    obtain ⟨failures, -, listed⟩ | listed := stateAfter_list backend <;> rw [listed]
    · exact has
    · exact has_discards (mt (@isSound.vanish luid) lasting) has
  kept_by_remove {backend luid other} _ different _ has := by
    obtain removed | ⟨e, failures, -, -, failed⟩ := on_remove luid backend
    · rw [stateAfter, removed]
      exact MemoryBackend.inventory.kept_by_remove trivial different id has
    · rwa [stateAfter, failed]
  held_before_remove {backend luid other} _ has := by
    obtain removed | ⟨e, failures, -, -, failed⟩ := on_remove luid backend
    · rw [stateAfter, removed] at has
      exact MemoryBackend.inventory.held_before_remove trivial has
    · rwa [stateAfter, failed] at has
  gone {backend luid} isSound harmless := by
    obtain removed | ⟨e, failures, scripted, -, failed⟩ := on_remove luid backend
    · rw [removed] at harmless
      rw [stateAfter, removed]
      exact MemoryBackend.inventory.gone trivial harmless
    · rw [failed] at harmless
      exact absurd harmless (isSound.refusing _ scripted rfl)

end ScriptedBackend

end DataSync
