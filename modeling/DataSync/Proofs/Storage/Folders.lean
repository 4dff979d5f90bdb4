import DataSync.Storage.Disk

/-!
# Creating directories

A directory that is there stays as it is when it is created again, whatever is around it.  Creating one
never takes away a name that some directory has, also if it fails on the way, and it succeeds only if the
directory is there afterwards.
-/

namespace DataSync

open DataSync.Action

namespace Disk

variable {disk after : Disk} {folder : String}

/-- Every name that there was in a directory is still there. -/
def Retains (disk after : Disk) : Prop :=
  ∀ folder content, disk.folders.get? folder = some content →
    ∃ grown, after.folders.get? folder = some grown ∧
      ∀ name, content.contains name = true → grown.contains name = true

theorem Retains.refl (disk : Disk) : disk.Retains disk :=
  fun _ content there => ⟨content, there, fun _ named => named⟩

theorem Retains.trans {between : Disk} (first : disk.Retains between)
    (second : between.Retains after) : disk.Retains after := by
  intro folder content there
  obtain ⟨grown, thereBetween, more⟩ := first folder content there
  obtain ⟨final, thereAfter, still⟩ := second folder grown thereBetween
  exact ⟨final, thereAfter, fun name named => still name (more name named)⟩

theorem retains_new_folder (absent : disk.folders.get? folder = none) :
    disk.Retains { disk with folders := disk.folders.insert folder .empty } := by
  intro other content there
  have different : other ≠ folder := fun same => by simp [same, absent] at there
  exact ⟨content, by simp [different, there], fun _ named => named⟩

theorem retains_put (disk : Disk) (path : FilePath) (entry : Entry) :
    disk.Retains (disk.put path entry) := by
  intro folder content there
  by_cases same : folder = path.folder
  · subst same
    refine ⟨content.insert path.name entry, by simp [put, there], fun name named => ?_⟩
    by_cases replaced : name = path.name
    · simp [Table.contains, replaced]
    · simpa [Table.contains, replaced] using named
  · refine ⟨content, ?_, fun _ named => named⟩
    rw [put]
    split
    · exact there
    · simp [same, there]

/-- What is put in one directory does not bring another one about. -/
theorem get?_put_eq_none (absent : disk.folders.get? folder = none) (path : FilePath) (entry : Entry) :
    (disk.put path entry).folders.get? folder = none := by
  rw [put]
  split
  · exact absent
  · rename_i content there
    have different : folder ≠ path.folder := fun same => by simp [← same, absent] at there
    simp [different, absent]

/-- How the creation of one directory goes. -/
theorem on_createFolder_cases (folder : String) (disk : Disk) :
    (∃ e, (createFolder folder).on disk = (.error e, disk)) ∨
    disk.folders.get? folder = none ∧
      ∃ listed : Disk, listed = disk.put (.ofText folder) .directory ∧
        (createFolder folder).on disk =
          (.ok (), { listed with folders := listed.folders.insert folder .empty }) := by
  simp only [createFolder, on_of]
  split
  · exact .inl ⟨_, rfl⟩
  · split
    · exact .inl ⟨_, rfl⟩
    · rename_i free
      have absent : disk.folders.get? folder = none := by
        simp only [isOccupied, Bool.or_eq_true, not_or, Table.contains] at free
        simpa using free.1
      exact .inr ⟨absent, _, rfl, rfl⟩

theorem retains_createFolder (disk : Disk) (folder : String) :
    disk.Retains ((createFolder folder).stateAfter disk) := by
  obtain ⟨e, failed⟩ | ⟨absent, listed, rfl, created⟩ := on_createFolder_cases folder disk
  · rw [stateAfter, failed]
    exact .refl disk
  · rw [stateAfter, created]
    have absentStill := get?_put_eq_none absent (.ofText folder) .directory
    exact (retains_put disk _ _).trans (retains_new_folder absentStill)

theorem retains_createWithin (disk : Disk) (way : List String) :
    disk.Retains ((createWithin way).stateAfter disk) := by
  induction way generalizing disk with
  | nil => exact .refl disk
  | cons folder outer inductionHypothesis =>
    simp only [createWithin, stateAfter, on_bind, on_view]
    split
    · exact .refl disk
    · have around := inductionHypothesis disk
      simp only [on_bind, on_mapError]
      rcases created : (createWithin outer).on disk with ⟨e | ⟨⟩, between⟩ <;>
        rw [stateAfter, created] at around
      · exact around
      · exact around.trans (retains_createFolder between folder)

theorem retains_createFolders (disk : Disk) (folder : String) :
    disk.Retains ((createFolders folder).stateAfter disk) := by
  simp only [createFolders, stateAfter, on_bind, on_view]
  split
  · exact .refl disk
  · split
    · exact .refl disk
    · exact retains_createWithin disk _

/-! ## What is there afterwards -/

theorem contains_of_createFolder (created : (createFolder folder).on disk = (.ok (), after)) :
    after.folders.contains folder = true := by
  obtain ⟨e, failed⟩ | ⟨-, listed, -, succeeded⟩ := on_createFolder_cases folder disk
  · rw [failed] at created
    cases created
  · rw [succeeded] at created
    cases created
    simp [Table.contains]

theorem contains_of_createWithin {outer : List String}
    (created : (createWithin (folder :: outer)).on disk = (.ok (), after)) :
    after.folders.contains folder = true := by
  simp only [createWithin, on_bind, on_view] at created
  split at created
  · rename_i there
    cases created
    exact there
  · obtain ⟨-, between, -, last⟩ := on_bind_eq_ok.1 created
    exact contains_of_createFolder last

/-- A directory whose path is written as it is on the disk is there once it was created. -/
theorem contains_of_createFolders (plain : (ancestry folder).getLast? = some folder)
    (created : (createFolders folder).on disk = (.ok (), after)) :
    after.folders.contains folder = true := by
  simp only [createFolders, on_bind, on_view] at created
  split at created
  · rename_i there
    cases created
    exact there
  · split at created
    · cases created
    · obtain ⟨outer, way⟩ := List.getLast?_eq_some_iff.1 plain
      rw [way, List.reverse_append] at created
      exact contains_of_createWithin created

example : (ancestry "/var/memo").getLast? = some "/var/memo" := by decide +kernel

end Disk

end DataSync
