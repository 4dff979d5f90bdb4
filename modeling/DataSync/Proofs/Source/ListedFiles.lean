import DataSync.Proofs.Source.FileRevisions
import DataSync.Proofs.Source.Wiping
import DataSync.Proofs.Storage.Folders
import DataSync.Storage.MemoryNode

/-!
# Listed files

Listing a directory and getting at an item decide on their own which names are names of items.  Both
leave out hidden names, but only the access also refuses a backslash.  So a listed file can be read,
updated and removed if there is no backslash in its name, and otherwise it is there but cannot be
touched.  A session that begins by wiping the directory stops at the first such file.

A name that is no text is not listed and cannot be asked for either, so directories are without such
names here.
-/

namespace DataSync

open DataSync.Action

/-! ## Tables without some keys -/

namespace Table

variable {α : Type}

theorem get?_filter (p : String → α → Bool) (table : Table α) (key : String) :
    (table.filter p).get? key = (table.get? key).filter (p key) :=
  find?_filter _ _ _ table.ascending

theorem nodup_keys (table : Table α) : table.keys.Nodup :=
  (List.pairwise_map.2 table.ascending).imp String.ne_of_lt

/-- The table in which none of the keys has a value. -/
def without (keys : List String) (table : Table α) : Table α :=
  table.filter fun key _ => key ∉ keys

theorem get?_without (keys : List String) (table : Table α) (key : String) :
    (table.without keys).get? key = if key ∈ keys then none else table.get? key := by
  rw [without, get?_filter]
  by_cases listed : key ∈ keys <;> cases table.get? key <;> simp [listed]

theorem without_nil (table : Table α) : table.without [] = table :=
  ext_get? fun key => by simp [get?_without]

theorem without_erase (table : Table α) (key : String) (keys : List String) :
    (table.erase key).without keys = table.without (key :: keys) :=
  ext_get? fun other => by by_cases same : other = key <;> simp [get?_without, same]

theorem insert_of_get? {table : Table α} {key : String} {value : α}
    (there : table.get? key = some value) : table.insert key value = table :=
  ext_get? fun other => by by_cases same : other = key <;> simp [same, there]

theorem insert_insert (table : Table α) (key : String) (first second : α) :
    (table.insert key first).insert key second = table.insert key second :=
  ext_get? fun other => by by_cases same : other = key <;> simp [same]

end Table

/-! ## Directories that are there -/

namespace Disk

/-- A text that a file can have as its name. -/
structure CanName (name : String) : Prop where
  written : name ≠ ""
  separable : '/' ∉ name.toList
  noNul : '\x00' ∉ name.toList
  short : name.utf8ByteSize ≤ nameLimit

instance (name : String) : Decidable (CanName name) :=
  decidable_of_iff
    (name ≠ "" ∧ '/' ∉ name.toList ∧ '\x00' ∉ name.toList ∧ name.utf8ByteSize ≤ nameLimit)
    ⟨fun ⟨written, separable, noNul, short⟩ => ⟨written, separable, noNul, short⟩,
      fun named => ⟨named.written, named.separable, named.noNul, named.short⟩⟩

end Disk

namespace FileItems

/-- A directory of items that can be got at, with its content. -/
structure Reachable (items : FileItems) (content : Folder) : Prop where
  there : items.disk.folders.get? items.folder = some content
  named : ∀ name ∈ content.keys, Disk.CanName name

/-- Something else is in the directory. -/
def withContent (items : FileItems) (content : Folder) : FileItems :=
  { items with
    disk := { items.disk with folders := items.disk.folders.insert items.folder content } }

/-- What an access to an item answers if its identifier cannot be the name of an item file. -/
def notUsable (luid : Luid) : SourceError :=
  .invalidItem luid "not usable as file name"

variable {items : FileItems} {content : Folder} {luid : Luid} {file : File}

theorem get?_withContent (items : FileItems) (content : Folder) :
    (items.withContent content).disk.folders.get? items.folder = some content := by
  simp [withContent]

/-! ## What is listed -/

theorem mem_keys_listing :
    luid ∈ (listing content).keys ↔
      isHidden luid = false ∧ ∃ file, content.get? luid = some (.file file) := by
  rw [← Table.contains_iff_mem_keys, Table.contains, get?_listing]
  rcases content.get? luid with _ | entry | _
  · simp
  · cases isHidden luid <;> simp
  · simp

/-- Nothing but a backslash stands between a listed name and its use. -/
theorem isUsable_iff (named : Disk.CanName luid) (visible : isHidden luid = false) :
    isUsable luid = true ↔ '\\' ∉ luid.toList := by
  have noSlash : ∀ c ∈ luid.toList, c ≠ '/' :=
    fun c member same => named.separable (same ▸ member)
  rw [isUsable, visible, decide_eq_true named.written]
  simp only [Bool.not_false, Bool.and_true, Bool.true_and, List.all_eq_true, Bool.and_eq_true,
    decide_eq_true_eq]
  exact ⟨fun separable member => (separable _ member).2 rfl,
    fun noBackslash c member => ⟨noSlash c member, fun same => noBackslash (same ▸ member)⟩⟩

/-- A listed file that can be used. -/
structure Usable (items : FileItems) (content : Folder) (luid : Luid) (file : File) : Prop where
  opened : items.isOpen = true
  there : items.disk.folders.get? items.folder = some content
  named : Disk.CanName luid
  usable : isUsable luid = true
  entry : content.get? luid = some (.file file)

theorem Usable.inFolder (item : items.Usable content luid file) :
    items.disk.folder ⟨items.folder, luid⟩ = .ok content :=
  Disk.folder_eq_ok.2 ⟨item.named.noNul, item.there, item.named.short⟩

theorem Usable.entry? (item : items.Usable content luid file) :
    items.disk.entry? ⟨items.folder, luid⟩ = .ok (some (.file file)) :=
  Disk.entry?_eq_ok.2 ⟨content, item.inFolder, item.entry⟩

theorem Usable.found (item : items.Usable content luid file) :
    items.disk.file ⟨items.folder, luid⟩ = .ok file :=
  Disk.file_eq_ok.2 item.entry?

/-! ## Access to listed files -/

/-- An item cannot be touched. -/
structure Refuses (items : FileItems) (luid : Luid) : Prop where
  read : (Backend.read luid).on items = (.error (notUsable luid), items)
  insert : ∀ data, (Backend.insert (some luid) data).on items = (.error (notUsable luid), items)
  remove : (Backend.remove luid).on items = (.error (notUsable luid), items)

theorem on_path_of_not_usable (unusable : isUsable luid = false) :
    (path luid).on items = (.error (notUsable luid), items) := by
  simp [path, unusable, notUsable]

theorem refuses (opened : items.isOpen = true) (unusable : isUsable luid = false) :
    items.Refuses luid where
  read := by simp only [Backend.read, on_bind, on_check opened, on_path_of_not_usable unusable]
  insert data := by
    simp only [Backend.insert, on_bind, on_check opened, on_path_of_not_usable unusable]
  remove := by simp only [Backend.remove, on_bind, on_check opened, on_path_of_not_usable unusable]

theorem Usable.on_insert (item : items.Usable content luid file) (data : Bytes) :
    (Backend.insert (some luid) data).on items =
      (.ok { luid, revision := revisionOf items.disk.clock, wasUpdate := true },
        items.withFile (items.allocator.observe luid) luid data) := by
  have written : (Disk.write ⟨items.folder, luid⟩ data).on items.disk =
      (.ok (), items.disk.stamp ⟨items.folder, luid⟩ data) := by
    simp [Disk.write, item.entry?]
  have put : (onDisk .io (Disk.write ⟨items.folder, luid⟩ data)).on items =
      (.ok (), { items with disk := items.disk.stamp ⟨items.folder, luid⟩ data }) :=
    on_onDisk_of_ok written
  simp only [Backend.insert, on_bind, on_check item.opened, on_path item.usable, on_get, item.found,
    put, on_modify]
  exact on_stored (file_withFile item.inFolder _ data)

theorem Usable.on_remove (item : items.Usable content luid file) :
    (Backend.remove luid).on items = (.ok (), items.withContent (content.erase luid)) := by
  have dropped : (Disk.remove ⟨items.folder, luid⟩).on items.disk =
      (.ok (), (items.withContent (content.erase luid)).disk) := by
    simp [Disk.remove, item.found, Disk.drop, item.there, withContent]
  simp only [Backend.remove, on_bind, on_check item.opened, on_path item.usable]
  exact on_onDisk_of_ok dropped

theorem withContent_withContent (items : FileItems) (first second : Folder) :
    (items.withContent first).withContent second = items.withContent second := by
  simp only [withContent, Table.insert_insert]

theorem withContent_of_there (there : items.disk.folders.get? items.folder = some content) :
    items.withContent content = items := by
  rw [withContent, Table.insert_of_get? there]

/-- A wipe of files that can be used removes them and nothing else. -/
theorem on_wipe_of_usable {luids : List Luid} (opened : items.isOpen = true)
    (there : items.disk.folders.get? items.folder = some content) (distinct : luids.Nodup)
    (usable : ∀ luid ∈ luids, ∃ file, items.Usable content luid file) :
    (Source.wipe luids).on items = (.ok (), items.withContent (content.without luids)) := by
  -- What a removal leaves is again a directory in which the rest of the files can be used.
  induction luids generalizing items content with
  | nil => rw [Table.without_nil, withContent_of_there there]; rfl
  | cons luid rest inductionHypothesis =>
    obtain ⟨absent, distinctRest⟩ := List.nodup_cons.1 distinct
    obtain ⟨file, item⟩ := usable luid List.mem_cons_self
    have left := items.get?_withContent (content.erase luid)
    have onward : (Source.wipe rest).on (items.withContent (content.erase luid)) =
        (.ok (), (items.withContent (content.erase luid)).withContent
          ((content.erase luid).without rest)) := by
      refine inductionHypothesis opened left distinctRest fun other member => ?_
      obtain ⟨file, later⟩ := usable other (List.mem_cons_of_mem _ member)
      have different : other ≠ luid := fun same => absent (same ▸ member)
      exact ⟨file, { later with there := left, entry := by simp [different, later.entry] }⟩
    simp only [Source.wipe, on_of, item.on_remove]
    rw [onward, withContent_withContent, Table.without_erase]

/-- A wipe stops at the first file that cannot be used. -/
theorem on_wipe_of_not_usable {removed rest : List Luid} (opened : items.isOpen = true)
    (there : items.disk.folders.get? items.folder = some content)
    (distinct : removed.Nodup) (usable : ∀ luid ∈ removed, ∃ file, items.Usable content luid file)
    (unusable : isUsable luid = false) :
    (Source.wipe (removed ++ luid :: rest)).on items =
      (.error (notUsable luid), items.withContent (content.without removed)) := by
  rw [Source.on_wipe_append (on_wipe_of_usable opened there distinct usable)]
  have openStill : (items.withContent (content.without removed)).isOpen = true := opened
  simp only [Source.wipe, on_of, (refuses openStill unusable).remove, notUsable]

/-! ## Beginning with a wipe -/

/-- The directory after it was opened. -/
def opened (items : FileItems) (content : Folder) : FileItems :=
  { items with isOpen := true, allocator := .seeded (listing content).keys }

theorem Reachable.file_of_listed (reachable : items.Reachable content)
    (listed : luid ∈ (listing content).keys) :
    isHidden luid = false ∧ Disk.CanName luid ∧ ∃ file, content.get? luid = some (.file file) := by
  obtain ⟨visible, file, entry⟩ := mem_keys_listing.1 listed
  have present : content.contains luid = true := by simp [Table.contains, entry]
  exact ⟨visible, reachable.named luid (Table.contains_iff_mem_keys.1 present), file, entry⟩

theorem Reachable.usable (reachable : items.Reachable content) (isOpen : items.isOpen = true)
    (listed : luid ∈ (listing content).keys) (noBackslash : '\\' ∉ luid.toList) :
    ∃ file, items.Usable content luid file := by
  obtain ⟨visible, named, file, entry⟩ := reachable.file_of_listed listed
  exact ⟨file, isOpen, reachable.there, named, (isUsable_iff named visible).2 noBackslash, entry⟩

theorem Reachable.not_usable (reachable : items.Reachable content)
    (listed : luid ∈ (listing content).keys) (backslash : '\\' ∈ luid.toList) :
    isUsable luid = false := by
  obtain ⟨visible, named, -⟩ := reachable.file_of_listed listed
  exact Bool.eq_false_iff.2 fun usable => (isUsable_iff named visible).1 usable backslash

theorem Reachable.opened (reachable : items.Reachable content) :
    (items.opened content).Reachable content :=
  ⟨reachable.there, reachable.named⟩

/-- What a wipe of a directory answers and leaves.  Without a backslash in any of the names all listed
files are removed; otherwise those that come before the first such name. -/
inductive Wiped (items : FileItems) (content : Folder) :
    Except SourceError ChangeSet → FileItems → Prop
  | through (clean : ∀ luid ∈ (listing content).keys, '\\' ∉ luid.toList) :
    Wiped items content (.ok .empty) (items.withContent (content.without (listing content).keys))
  | stuck {removed rest : List Luid} {luid : Luid}
      (listed : (listing content).keys = removed ++ luid :: rest)
      (clean : ∀ name ∈ removed, '\\' ∉ name.toList) (backslash : '\\' ∈ luid.toList) :
    Wiped items content (.error (notUsable luid)) (items.withContent (content.without removed))

theorem Reachable.wiped (reachable : items.Reachable content) (isOpen : items.isOpen = true) :
    ∃ answer after, (Source.wipe (listing content).keys).on items = (answer, after) ∧
      items.Wiped content (answer.map fun _ => .empty) after := by
  have distinct := (listing content).nodup_keys
  cases first : (listing content).keys.find? ('\\' ∈ ·.toList) with
  | none =>
    have clean : ∀ luid ∈ (listing content).keys, '\\' ∉ luid.toList := by
      simpa using List.find?_eq_none.1 first
    exact ⟨_, _, on_wipe_of_usable isOpen reachable.there distinct fun luid listed =>
      reachable.usable isOpen listed (clean luid listed), .through clean⟩
  | some luid =>
    obtain ⟨backslash, removed, rest, listed, before⟩ := List.find?_eq_some_iff_append.1 first
    have clean : ∀ name ∈ removed, '\\' ∉ name.toList := by simpa using before
    have special : '\\' ∈ luid.toList := by simpa using backslash
    have unusable := reachable.not_usable (List.mem_of_find?_eq_some first) special
    have distinctBefore : removed.Nodup := (List.nodup_append.1 (listed ▸ distinct)).1
    have usable : ∀ name ∈ removed, ∃ file, items.Usable content name file := fun name member =>
      reachable.usable isOpen (listed ▸ List.mem_append_left _ member) (clean name member)
    refine ⟨.error (notUsable luid), items.withContent (content.without removed), ?_,
      .stuck listed clean special⟩
    rw [listed]
    exact on_wipe_of_not_usable isOpen reachable.there distinctBefore usable unusable

end FileItems

end DataSync
