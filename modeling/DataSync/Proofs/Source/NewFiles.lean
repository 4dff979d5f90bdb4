import DataSync.Proofs.Storage.DiskEntries
import DataSync.Source.FileItems

/-!
# New item files

An item that is added to a directory gets the first number for which there is nothing there, however far
the allocator lags behind what others put into the directory.  So nothing is overwritten, and the search
comes to an end with the numbers.
-/

namespace DataSync

open DataSync.Action

/-! ## Numbers that are not in use -/

namespace IdAllocator

/-- The first of the numbers that an allocator can still give for which nothing is in use. -/
structure FirstFree (a : IdAllocator) (used : Nat → Bool) (n : Nat) : Prop where
  reachable : a.next ≤ n
  small : n < numericLimit
  unused : used n = false
  least : ∀ m, a.next ≤ m → m < n → used m = true

/-- There is no such number. -/
def AllUsed (a : IdAllocator) (used : Nat → Bool) : Prop :=
  ∀ n, a.next ≤ n → n < numericLimit → used n = true

variable {σ : Type} {taken : Luid → Action σ SourceError Bool} {s : σ} {used : Nat → Bool}

/-- A search with a test that says what is in use finds the first free number, or that there is none. -/
theorem allocateWith_of_told
    (told : ∀ n < numericLimit, (taken (toString n)).on s = (.ok (used n), s))
    (a : IdAllocator) :
    (∃ n b, a.FirstFree used n ∧ b.next = n + 1 ∧ a.allocateWith taken s = (.ok (toString n), b, s)) ∨
      a.AllUsed used ∧ ∃ b, b.next = numericLimit ∧
        a.allocateWith taken s = (.error .idSpaceExhausted, b, s) := by
  -- Each round takes one number off those that are left.
  induction rounds : numericLimit - a.next generalizing a with
  | zero =>
    have full : a.next = numericLimit := by
      have := a.bounded
      omega
    refine .inr ⟨fun n above below => by omega, a, full, ?_⟩
    rw [allocateWith, dif_neg (by omega)]
  | succ fewer inductionHypothesis =>
    have more : a.next < numericLimit := by omega
    have round := told a.next more
    rw [allocateWith, dif_pos more]
    dsimp only
    cases use : used a.next with
    | true =>
      rw [round, use]
      have left : numericLimit - (⟨a.next + 1, more⟩ : IdAllocator).next = fewer := by
        change numericLimit - (a.next + 1) = fewer
        omega
      obtain ⟨n, b, free, next, found⟩ | ⟨full, exhausted⟩ := inductionHypothesis _ left
      · refine .inl ⟨n, b, ⟨Nat.le_of_succ_le free.reachable, free.small, free.unused, ?_⟩, next, found⟩
        intro m above below
        obtain same | later := Nat.eq_or_lt_of_le above
        · exact same ▸ use
        · exact free.least m later below
      · refine .inr ⟨fun n above below => ?_, exhausted⟩
        obtain same | later := Nat.eq_or_lt_of_le above
        · exact same ▸ use
        · exact full n later below
    | false =>
      rw [round, use]
      refine .inl ⟨a.next, ⟨a.next + 1, more⟩, ⟨Nat.le_refl _, more, use, fun m _ _ => ?_⟩, rfl, rfl⟩
      omega

end IdAllocator

/-! ## Numbers as names -/

theorem isDigit_of_mem_toString {n : Nat} {c : Char} (member : c ∈ (toString n).toList) :
    c.isDigit = true := by
  rw [Nat.toString_eq_repr, Nat.toList_repr] at member
  exact Nat.isDigit_of_mem_toDigits (by decide) (by decide) member

theorem ne_of_mem_toString {n : Nat} {c other : Char} (member : c ∈ (toString n).toList)
    (foreign : other.isDigit = false) : c ≠ other := by
  rintro rfl
  rw [isDigit_of_mem_toString member] at foreign
  cases foreign

theorem utf8ByteSize_ofList_of_digits {chars : List Char} (digits : ∀ c ∈ chars, c.isDigit = true) :
    (String.ofList chars).utf8ByteSize = chars.length := by
  rw [← Bytes.length_ofText, Bytes.ofText_ofList]
  induction chars with
  | nil => rfl
  | cons c rest inductionHypothesis =>
    have ascii : c.utf8Size = 1 := by
      have within : 48 ≤ c.val ∧ c.val ≤ 57 := by simpa [Char.isDigit] using digits c List.mem_cons_self
      exact Char.utf8Size_eq_one_iff.2 (UInt32.le_trans within.2 (by decide))
    have later := inductionHypothesis fun other member => digits other (List.mem_cons_of_mem c member)
    simp only [List.flatMap_cons, List.length_append, String.length_utf8EncodeChar, ascii, later,
      List.length_cons]
    omega

/-- Numbers that can be given are short as names. -/
theorem utf8ByteSize_toString_le {n : Nat} (small : n < numericLimit) :
    (toString n).utf8ByteSize ≤ Disk.nameLimit := by
  have digits : ∀ c ∈ Nat.toDigits 10 n, c.isDigit = true := fun c member =>
    Nat.isDigit_of_mem_toDigits (by decide) (by decide) member
  have few : (Nat.toDigits 10 n).length ≤ 20 :=
    (Nat.length_toDigits_le_iff (by decide) (by decide)).2 (Nat.lt_trans small (by decide))
  rw [Nat.toString_eq_ofList_toDigits, utf8ByteSize_ofList_of_digits digits]
  exact Nat.le_trans few (by decide)

namespace FileItems

theorem isHidden_toString (n : Nat) : isHidden (toString n) = false := by
  refine decide_eq_false fun hidden => ?_
  exact ne_of_mem_toString (List.mem_of_mem_head? hidden) (by decide) rfl

/-- A number can be the name of an item file. -/
theorem isUsable_toString (n : Nat) : isUsable (toString n) = true := by
  have separable : ∀ c ∈ (toString n).toList, c ≠ '/' ∧ c ≠ '\\' := fun c member =>
    ⟨ne_of_mem_toString member (by decide), ne_of_mem_toString member (by decide)⟩
  have written : toString n ≠ "" := by
    intro nothing
    have empty := congrArg String.toList nothing
    rw [Nat.toString_eq_repr, Nat.toList_repr] at empty
    exact Nat.toDigits_ne_nil empty
  rw [isUsable, isHidden_toString, decide_eq_true written]
  simpa using separable

variable {items : FileItems} {content : Folder} {disk : Disk} {folder : String}

/-- A file whose name is a number that can be given can stand in any directory. -/
theorem folder_of_number (there : disk.folders.get? folder = some content) {n : Nat}
    (small : n < numericLimit) : disk.folder ⟨folder, toString n⟩ = .ok content := by
  refine Disk.folder_eq_ok.2 ⟨fun nul => ?_, there, utf8ByteSize_toString_le small⟩
  exact ne_of_mem_toString nul (by decide) rfl

theorem entry?_of_number (there : disk.folders.get? folder = some content) {n : Nat}
    (small : n < numericLimit) : disk.entry? ⟨folder, toString n⟩ = .ok (content.get? (toString n)) :=
  Disk.entry?_eq_ok.2 ⟨content, folder_of_number there small, rfl⟩

/-! ## Adding items -/

/-- Whether there is something in a directory with a number as its name, be it an item or not. -/
def isUsed (content : Folder) (n : Nat) : Bool :=
  content.contains (toString n)

/-- What a search for a fresh identifier is told. -/
def isTaken (items : FileItems) (luid : Luid) : Action Unit SourceError Bool :=
  match items.disk.entry? ⟨items.folder, luid⟩ with
  | .error e => throw (.io e)
  | .ok entry => pure entry.isSome

theorem on_freshLuid (items : FileItems) :
    freshLuid.on items = ((items.allocator.allocateWith items.isTaken ()).1,
      { items with allocator := (items.allocator.allocateWith items.isTaken ()).2.1 }) := rfl

theorem freshLuid_cases (there : items.disk.folders.get? items.folder = some content) :
    (∃ n b, items.allocator.FirstFree (isUsed content) n ∧ b.next = n + 1 ∧
        freshLuid.on items = (.ok (toString n), { items with allocator := b })) ∨
      items.allocator.AllUsed (isUsed content) ∧ ∃ b, b.next = numericLimit ∧
        freshLuid.on items = (.error .idSpaceExhausted, { items with allocator := b }) := by
  have told : ∀ n < numericLimit,
      (items.isTaken (toString n)).on () = (.ok (isUsed content n), ()) := by
    intro n small
    simp only [isTaken, entry?_of_number there small, on_pure]
    rfl
  rw [on_freshLuid]
  obtain ⟨n, b, free, next, found⟩ | ⟨full, b, next, exhausted⟩ :=
    IdAllocator.allocateWith_of_told told items.allocator
  · exact .inl ⟨n, b, free, next, by rw [found]⟩
  · exact .inr ⟨full, b, next, by rw [exhausted]⟩

/-! ### Access to the disk -/

variable {α : Type} {failure : IoError → SourceError} {data : Bytes} {luid : Luid}

theorem on_check (opened : items.isOpen = true) : check.on items = (.ok (), items) := by
  simp [check, opened]

theorem on_path (usable : isUsable luid = true) :
    (path luid).on items = (.ok ⟨items.folder, luid⟩, items) := by
  simp [path, usable]

theorem on_onDisk_of_ok {action : Action Disk IoError α} {a : α} {after : Disk}
    (done : action.on items.disk = (.ok a, after)) :
    (onDisk failure action).on items = (.ok a, { items with disk := after }) := by
  rw [onDisk, on_within, on_mapError, done]
  rfl

theorem on_ask_of_ok {question : Disk → Except IoError α} {a : α}
    (answered : question items.disk = .ok a) : (ask failure question).on items = (.ok a, items) :=
  on_onDisk_of_ok (congrArg (·, items.disk) answered)

theorem on_stored {wasUpdate : Bool} {path : FilePath} {file : File}
    (there : items.disk.file path = .ok file) :
    (stored luid wasUpdate path).on items =
      (.ok { luid, revision := revisionOf file.modified, wasUpdate }, items) := by
  rw [stored, on_bind, on_ask_of_ok there]
  rfl

theorem on_read_of_usable (opened : items.isOpen = true) (usable : isUsable luid = true) {file : File}
    (there : items.disk.file ⟨items.folder, luid⟩ = .ok file) :
    (Backend.read luid).on items = (.ok file.content, items) := by
  simp only [Backend.read, on_bind, on_check opened, on_path usable, on_ask_of_ok there]
  rfl

theorem on_list_of_open (opened : items.isOpen = true)
    (there : items.disk.folders.get? items.folder = some content) :
    (Backend.list).on items = (.ok (listing content), items) := by
  have answered : openFolder items.folder items.disk = .ok content := by rw [openFolder, there]
  simp only [Backend.list, list, on_bind, on_check opened, on_get, on_ask_of_ok answered]
  rfl

/-! ### New files -/

/-- A directory of item files after a file was put into it. -/
def withFile (items : FileItems) (allocator : IdAllocator) (luid : Luid) (data : Bytes) : FileItems :=
  { items with allocator, disk := items.disk.stamp ⟨items.folder, luid⟩ data }

theorem folders_withFile (there : items.disk.folders.get? items.folder = some content)
    (allocator : IdAllocator) (luid : Luid) (data : Bytes) :
    (items.withFile allocator luid data).disk.folders = items.disk.folders.insert items.folder
      (content.insert luid (.file { content := data, modified := items.disk.clock })) := by
  simp [withFile, Disk.stamp, Disk.put, there]

theorem file_withFile (there : items.disk.folder ⟨items.folder, luid⟩ = .ok content)
    (allocator : IdAllocator) (data : Bytes) :
    (items.withFile allocator luid data).disk.file ⟨items.folder, luid⟩ =
      .ok { content := data, modified := items.disk.clock } :=
  Disk.file_eq_ok.2 ((Disk.entry?_stamp there data _).trans (if_pos rfl))

/-- A new file is listed with the revision of its time, beside what was listed before. -/
theorem listing_insert (hidden : isHidden luid = false) (file : File) (content : Folder) :
    listing (content.insert luid (.file file)) =
      (listing content).insert luid (revisionOf file.modified) := by
  refine Table.ext_get? fun key => ?_
  simp only [listing, Table.get?_filterMap, Table.get?_insert]
  by_cases same : key = luid
  · simp [same, hidden]
  · simp [same]

/-- An identifier for which there is nothing gets a file. -/
theorem on_insert_of_fresh (opened : items.isOpen = true) {allocator : IdAllocator}
    (fresh : freshLuid.on items = (.ok luid, { items with allocator }))
    (there : items.disk.folder ⟨items.folder, luid⟩ = .ok content) (absent : content.get? luid = none)
    (data : Bytes) :
    (Backend.insert none data).on items =
      (.ok { luid, revision := revisionOf items.disk.clock, wasUpdate := false },
        items.withFile allocator luid data) := by
  have missing : items.disk.entry? ⟨items.folder, luid⟩ = .ok none :=
    Disk.entry?_eq_ok.2 ⟨content, there, absent⟩
  have written : (Disk.write ⟨items.folder, luid⟩ data).on items.disk =
      (.ok (), items.disk.stamp ⟨items.folder, luid⟩ data) := by
    simp [Disk.write, missing]
  have put : (onDisk .io (Disk.write ⟨items.folder, luid⟩ data)).on { items with allocator } =
      (.ok (), items.withFile allocator luid data) := on_onDisk_of_ok written
  simp only [Backend.insert, on_bind, on_check opened, fresh, on_get, put]
  exact on_stored (file_withFile there allocator data)

/-- What it comes to that an item was added. -/
structure Added (items : FileItems) (content : Folder) (data : Bytes) (result : Inserted)
    (after : FileItems) : Prop where
  fresh : ∃ n, items.allocator.FirstFree (isUsed content) n ∧ result.luid = toString n
  absent : content.get? result.luid = none
  created : result.wasUpdate = false
  read : (Backend.read result.luid).on after = (.ok data, after)
  listed : (Backend.list).on after =
    (.ok ((listing content).insert result.luid result.revision), after)
  /-- All else in the directory and elsewhere is as it was. -/
  others : ∃ file : File, file.content = data ∧ after.disk.folders =
    items.disk.folders.insert items.folder (content.insert result.luid (.file file))

/-- Adding an item never overwrites anything, whatever is in the directory and however far the allocator
lags behind: it is put into a file with a number for which there was nothing, or all numbers are used up
and nothing changes on the disk. -/
theorem added_item_overwrites_nothing (opened : items.isOpen = true)
    (there : items.disk.folders.get? items.folder = some content) (data : Bytes) :
    (items.allocator.AllUsed (isUsed content) ∧ ∃ after,
      (Backend.insert none data).on items = (.error .idSpaceExhausted, after) ∧
        after.disk = items.disk) ∨
    ∃ result after, (Backend.insert none data).on items = (.ok result, after) ∧
      Added items content data result after := by
  obtain ⟨n, b, free, -, fresh⟩ | ⟨full, b, -, exhausted⟩ := freshLuid_cases there
  · have absent : content.get? (toString n) = none := by
      simpa [isUsed, Table.contains] using free.unused
    have inFolder := folder_of_number there free.small
    refine .inr ⟨_, _, on_insert_of_fresh opened fresh inFolder absent data, ?_⟩
    have folders := folders_withFile there b (toString n) data
    have present : (items.withFile b (toString n) data).disk.folders.get? items.folder =
        some (content.insert (toString n) (.file { content := data, modified := items.disk.clock })) := by
      rw [folders]
      exact (Table.get?_insert ..).trans (if_pos rfl)
    have stillOpen : (items.withFile b (toString n) data).isOpen = true := opened
    exact {
      fresh := ⟨n, free, rfl⟩
      absent := absent
      created := rfl
      read := on_read_of_usable stillOpen (isUsable_toString n) (file_withFile inFolder b data)
      listed := by rw [on_list_of_open stillOpen present, listing_insert (isHidden_toString n)]
      others := ⟨_, rfl, folders⟩ }
  · refine .inl ⟨full, { items with allocator := b }, ?_, rfl⟩
    simp only [Backend.insert, on_bind, on_check opened, exhausted]

/-- The entries that others put into a directory behind the back of an allocator. -/
def crowdedFolder : Folder :=
  .ofList [("1", .file { content := [7], modified := 0 }), ("2", .directory),
    (".3", .file { content := [], modified := 0 }), ("notes", .file { content := [], modified := 0 })]

def crowded : FileItems :=
  { name := "memo", folder := "memo", isOpen := true,
    disk := { folders := .ofList [("memo", crowdedFolder)] } }

theorem added_to_crowded_folder :
    crowded.isOpen = true ∧ crowded.disk.folders.get? crowded.folder = some crowdedFolder ∧
    ∃ result after, (Backend.insert none [1]).on crowded = (.ok result, after) ∧ result.luid = "3" ∧
      Added crowded crowdedFolder [1] result after := by
  have isOpen : crowded.isOpen = true := rfl
  have there : crowded.disk.folders.get? crowded.folder = some crowdedFolder := by decide +kernel
  have first : isUsed crowdedFolder 1 = true := by decide +kernel
  have second : isUsed crowdedFolder 2 = true := by decide +kernel
  have third : isUsed crowdedFolder 3 = false := by decide +kernel
  refine ⟨isOpen, there, ?_⟩
  obtain ⟨full, -⟩ | ⟨result, after, inserted, added⟩ :=
    added_item_overwrites_nothing isOpen there [1]
  · rw [full 3 (by decide) (by decide)] at third
    cases third
  · obtain ⟨n, free, luid⟩ := added.fresh
    have unused := free.unused
    have reachable : 1 ≤ n := free.reachable
    have bound : n ≤ 3 := by
      refine Nat.le_of_not_lt fun above => ?_
      rw [free.least 3 (by decide) above] at third
      cases third
    obtain rfl | rfl | rfl : n = 1 ∨ n = 2 ∨ n = 3 := by omega
    · rw [first] at unused
      cases unused
    · rw [second] at unused
      cases unused
    · exact ⟨result, after, inserted, luid, added⟩

end FileItems

end DataSync
