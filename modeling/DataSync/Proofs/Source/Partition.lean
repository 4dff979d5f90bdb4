import DataSync.Proofs.Source.Comparison

/-!
# Change sets partition the items

Every item of two listings is in exactly one of four sets.  The sets can also be filled one item at a
time, first from the current listing and then from the previous one; it makes no difference in which
order the items of a listing come.
-/

namespace DataSync

theorem LuidSet.ext {first second : LuidSet}
    (same : ∀ luid, first.contains luid = true ↔ second.contains luid = true) : first = second := by
  refine Table.ext_get? fun luid => ?_
  have same := same luid
  unfold Table.contains at same
  cases now : first.get? luid <;> cases other : second.get? luid <;> simp_all

/-! ## Sets that are filled one item at a time -/

/-- One set of items for each state. -/
structure Sorting where
  added : LuidSet := ∅
  updated : LuidSet := ∅
  deleted : LuidSet := ∅
  unchanged : LuidSet := ∅

namespace Sorting

/-- The items with a state. -/
def items (sorting : Sorting) : ItemState → LuidSet
  | .added => sorting.added
  | .updated => sorting.updated
  | .deleted => sorting.deleted
  | .unchanged => sorting.unchanged

/-- Put an item into one of the sets. -/
def put (sorting : Sorting) (luid : Luid) : ItemState → Sorting
  | .added => { sorting with added := sorting.added.insert luid () }
  | .updated => { sorting with updated := sorting.updated.insert luid () }
  | .deleted => { sorting with deleted := sorting.deleted.insert luid () }
  | .unchanged => { sorting with unchanged := sorting.unchanged.insert luid () }

/-- The first set that an item is found in. -/
def state? (sorting : Sorting) (luid : Luid) : Option ItemState :=
  if sorting.added.contains luid then some .added
  else if sorting.updated.contains luid then some .updated
  else if sorting.deleted.contains luid then some .deleted
  else if sorting.unchanged.contains luid then some .unchanged
  else none

/-- Put the entries of the current listing where they belong. -/
def withPresent (previous : RevisionMap) (sorting : Sorting) (entries : List (Luid × Revision)) :
    Sorting :=
  entries.foldl (fun sorting entry =>
    sorting.put entry.1 (ChangeSet.stateOf entry.2 (previous.get? entry.1))) sorting

/-- Put those items of the previous listing where they belong that the current one does not have. -/
def withGone (current : RevisionMap) (sorting : Sorting) (luids : List Luid) : Sorting :=
  luids.foldl (fun sorting luid =>
    if current.contains luid then sorting else sorting.put luid .deleted) sorting

/-- The sets for two listings that are gone through in some order. -/
def of (current previous : RevisionMap) (entries : List (Luid × Revision)) (luids : List Luid) :
    Sorting :=
  withGone current (withPresent previous {} entries) luids

variable {sorting : Sorting} {current previous : RevisionMap} {luid : Luid} {state : ItemState}
  {entries : List (Luid × Revision)} {luids : List Luid}

theorem contains_put (other : Luid) (target : ItemState) :
    ((sorting.put other target).items state).contains luid = true ↔
      luid = other ∧ target = state ∨ (sorting.items state).contains luid = true := by
  cases target <;> cases state <;> by_cases same : luid = other <;>
    simp [put, items, Table.contains, same]

theorem contains_withPresent : ((withPresent previous sorting entries).items state).contains luid = true ↔
    (∃ revision, (luid, revision) ∈ entries ∧
      ChangeSet.stateOf revision (previous.get? luid) = state) ∨
    (sorting.items state).contains luid = true := by
  induction entries generalizing sorting with
  | nil => simp [withPresent]
  | cons entry entries inductionHypothesis =>
    have step : withPresent previous sorting (entry :: entries) = withPresent previous
      (sorting.put entry.1 (ChangeSet.stateOf entry.2 (previous.get? entry.1))) entries := rfl
    rw [step, inductionHypothesis, contains_put]
    obtain ⟨other, now⟩ := entry
    constructor
    · rintro (⟨revision, member, belongs⟩ | ⟨rfl, belongs⟩ | before)
      · exact .inl ⟨revision, List.mem_cons_of_mem _ member, belongs⟩
      · exact .inl ⟨now, List.mem_cons_self, belongs⟩
      · exact .inr before
    · rintro (⟨revision, member, belongs⟩ | before)
      · obtain ⟨⟩ | ⟨_, later⟩ := member
        · exact .inr (.inl ⟨rfl, belongs⟩)
        · exact .inl ⟨revision, later, belongs⟩
      · exact .inr (.inr before)

theorem contains_withGone : ((withGone current sorting luids).items state).contains luid = true ↔
    luid ∈ luids ∧ current.contains luid = false ∧ .deleted = state ∨
    (sorting.items state).contains luid = true := by
  induction luids generalizing sorting with
  | nil => simp [withGone]
  | cons other luids inductionHypothesis =>
    have step : withGone current sorting (other :: luids) = withGone current
      (if current.contains other then sorting else sorting.put other .deleted) luids := rfl
    rw [step, inductionHypothesis]
    cases present : current.contains other with
    | true =>
      have different (absent : current.contains luid = false) : luid ≠ other := by
        rintro rfl
        exact Bool.noConfusion (absent.symm.trans present)
      rw [if_pos rfl, List.mem_cons]
      grind
    | false =>
      rw [if_neg Bool.false_ne_true, contains_put, List.mem_cons]
      grind

end Sorting

/-! ## Sets of a change set -/

namespace ChangeSet

variable {changes other : ChangeSet} {luid : Luid} {state : ItemState}

/-- The items with a state as a set. -/
def itemsWith (changes : ChangeSet) (state : ItemState) : LuidSet :=
  changes.states.filterMap fun _ other => if other = state then some () else none

theorem keys_itemsWith : (changes.itemsWith state).keys = changes.withState state := by
  unfold itemsWith Table.filterMap Table.keys withState
  rw [List.map_filterMap]
  induction changes.states.entries with
  | nil => rfl
  | cons entry entries inductionHypothesis =>
    rw [List.filterMap_cons, inductionHypothesis, List.filter_cons]
    by_cases belongs : entry.2 = state <;> simp [belongs]

theorem contains_itemsWith :
    (changes.itemsWith state).contains luid = true ↔ changes.state? luid = some state := by
  unfold itemsWith Table.contains
  rw [Table.get?_filterMap]
  change (((changes.state? luid).bind _).isSome = true) ↔ _
  cases changes.state? luid with
  | none => simp
  | some found => by_cases belongs : found = state <;> simp [belongs]

/-- Sets of items that are told apart by the states in change sets are equal lists. -/
theorem withState_eq {target : ItemState}
    (same : ∀ luid, changes.state? luid = some state ↔ other.state? luid = some target) :
    changes.withState state = other.withState target := by
  have equal : changes.itemsWith state = other.itemsWith target :=
    LuidSet.ext fun luid => by rw [contains_itemsWith, contains_itemsWith, same luid]
  rw [← keys_itemsWith, ← keys_itemsWith, equal]

theorem stateOf_eq (now : Revision) (before : Option Revision) :
    ItemState.against (some now) before = some (stateOf now before) := by
  cases before <;> rfl

/-- Whatever the order of the items, filling the sets one item at a time gives the sets of the change
set. -/
theorem items_sorting {current previous : RevisionMap} {entries : List (Luid × Revision)}
    {luids : List Luid} (present : entries.Perm current.entries) (known : luids.Perm previous.keys)
    (state : ItemState) :
    (Sorting.of current previous entries luids).items state =
      (between current previous).itemsWith state := by
  refine LuidSet.ext fun luid => ?_
  rw [contains_itemsWith, state?_between, Sorting.of, Sorting.contains_withGone,
    Sorting.contains_withPresent, known.mem_iff, ← Table.contains_iff_mem_keys]
  have listed (revision : Revision) :
      (luid, revision) ∈ entries ↔ current.get? luid = some revision := by
    rw [present.mem_iff, Table.get?_eq_some_iff]
  have nothing : ((({} : Sorting).items state).contains luid) = false := by
    cases state <;> rfl
  simp only [listed, nothing]
  cases now : current.get? luid with
  | none => cases before : previous.get? luid <;> simp [Table.contains, now, before, ItemState.against]
  | some revision => simp [Table.contains, now, stateOf_eq]

/-- Looking an item up in one set after the other finds its state. -/
theorem state?_sorting {sorting : Sorting} {changes : ChangeSet}
    (same : ∀ state, sorting.items state = changes.itemsWith state) (luid : Luid) :
    sorting.state? luid = changes.state? luid := by
  have found (state : ItemState) :
      (sorting.items state).contains luid = true ↔ changes.state? luid = some state := by
    rw [same, contains_itemsWith]
  have added := found .added
  have updated := found .updated
  have deleted := found .deleted
  have unchanged := found .unchanged
  simp only [Sorting.items] at added updated deleted unchanged
  simp only [Sorting.state?, added, updated, deleted, unchanged]
  cases changes.state? luid with
  | none => simp
  | some state => cases state <;> simp

end ChangeSet

/-! ## Comparing the other way round -/

/-- How an item stands if the listings change places. -/
def ItemState.reversed : ItemState → ItemState
  | added => deleted
  | deleted => added
  | updated => updated
  | unchanged => unchanged

theorem ItemState.against_swap (now before : Option Revision) :
    against before now = (against now before).map reversed := by
  cases now with
  | none => cases before <;> rfl
  | some now =>
    cases before with
    | none => rfl
    | some before => by_cases same : now = before <;> simp [against, same, Ne.symm, reversed]

theorem ItemState.against_eq_none {now before : Option Revision} :
    against now before = none ↔ ¬ now.isSome = true ∧ ¬ before.isSome = true := by
  cases now <;> cases before <;> simp [against]

/-- What each state says of the two revisions. -/
theorem ItemState.against_iff (now before : Option Revision) :
    (against now before = some .added ↔ now.isSome = true ∧ ¬ before.isSome = true) ∧
    (against now before = some .deleted ↔ before.isSome = true ∧ ¬ now.isSome = true) ∧
    (against now before = some .updated ↔ ∃ one other,
      now = some one ∧ before = some other ∧ one ≠ other) ∧
    (against now before = some .unchanged ↔ ∃ revision,
      now = some revision ∧ before = some revision) ∧
    (against now before = none ↔ ¬ now.isSome = true ∧ ¬ before.isSome = true) := by
  refine ⟨?_, ?_, ?_, ?_, against_eq_none⟩ <;> cases now <;> cases before <;> grind [against]

namespace ChangeSet

theorem mem_any_iff {changes : ChangeSet} {luid : Luid} :
    luid ∈ changes.added ∨ luid ∈ changes.updated ∨ luid ∈ changes.deleted ∨
      luid ∈ changes.unchanged ↔ changes.state? luid ≠ none := by
  simp only [added, updated, deleted, unchanged, mem_withState]
  cases changes.state? luid with
  | none => simp
  | some state => cases state <;> simp

theorem withState_swap (current previous : RevisionMap) (state : ItemState) :
    (between previous current).withState state =
      (between current previous).withState state.reversed := by
  refine withState_eq fun luid => ?_
  rw [state?_between, state?_between, ItemState.against_swap]
  cases ItemState.against (current.get? luid) (previous.get? luid) with
  | none => simp
  | some found => cases found <;> cases state <;> simp [ItemState.reversed]

/-- The four sets of a change set are disjoint and together hold the items of both listings, each in the
set that its two revisions say.  They are the sets that come about when the listings are gone through in
any order, and with the listings the other way round what was added is deleted and what was deleted is
added. -/
theorem changes_partition_items (current previous : RevisionMap) :
    (∀ first second, first ≠ second → ∀ luid ∈ (between current previous).withState first,
      luid ∉ (between current previous).withState second) ∧
    (∀ luid, luid ∈ (between current previous).added ∨ luid ∈ (between current previous).updated ∨
        luid ∈ (between current previous).deleted ∨ luid ∈ (between current previous).unchanged ↔
      luid ∈ current.keys ∨ luid ∈ previous.keys) ∧
    (∀ luid,
      ((between current previous).state? luid = some .added ↔
        luid ∈ current.keys ∧ luid ∉ previous.keys) ∧
      ((between current previous).state? luid = some .deleted ↔
        luid ∈ previous.keys ∧ luid ∉ current.keys) ∧
      ((between current previous).state? luid = some .updated ↔ ∃ now before,
        current.get? luid = some now ∧ previous.get? luid = some before ∧ now ≠ before) ∧
      ((between current previous).state? luid = some .unchanged ↔ ∃ revision,
        current.get? luid = some revision ∧ previous.get? luid = some revision) ∧
      ((between current previous).state? luid = none ↔
        luid ∉ current.keys ∧ luid ∉ previous.keys)) ∧
    (∀ entries luids, entries.Perm current.entries → luids.Perm previous.keys →
      (∀ state, ((Sorting.of current previous entries luids).items state).keys =
        (between current previous).withState state) ∧
      ∀ luid, (Sorting.of current previous entries luids).state? luid =
        (between current previous).state? luid) ∧
    (between previous current).added = (between current previous).deleted ∧
    (between previous current).deleted = (between current previous).added ∧
    (between previous current).updated = (between current previous).updated ∧
    (between previous current).unchanged = (between current previous).unchanged := by
  have isCurrent (luid : Luid) : luid ∈ current.keys ↔ (current.get? luid).isSome = true :=
    Table.contains_iff_mem_keys.symm
  have isPrevious (luid : Luid) : luid ∈ previous.keys ↔ (previous.get? luid).isSome = true :=
    Table.contains_iff_mem_keys.symm
  refine ⟨?_, ?_, ?_, ?_, withState_swap _ _ _, withState_swap _ _ _, withState_swap _ _ _,
    withState_swap _ _ _⟩
  · intro first second different luid inFirst inSecond
    rw [mem_withState] at inFirst inSecond
    exact different (Option.some.inj (inFirst.symm.trans inSecond))
  · intro luid
    rw [mem_any_iff, state?_between, Ne, ItemState.against_eq_none, isCurrent, isPrevious]
    grind
  · intro luid
    rw [state?_between, isCurrent, isPrevious]
    exact ItemState.against_iff _ _
  · intro entries luids present known
    have same := items_sorting present known
    refine ⟨fun state => ?_, state?_sorting same⟩
    rw [same, keys_itemsWith]

/-- Listings with an item of each kind. -/
def keptAndGone : RevisionMap := .ofList [("keep", "1"), ("edit", "1"), ("gone", "1")]

def keptAndNew : RevisionMap := .ofList [("keep", "1"), ("edit", "2"), ("new", "1")]

theorem kept_items_partitioned :
    (Sorting.of keptAndNew keptAndGone keptAndNew.entries.reverse keptAndGone.keys.reverse).state?
      "edit" = some .updated ∧
    (Sorting.of keptAndNew keptAndGone keptAndNew.entries.reverse keptAndGone.keys.reverse).deleted.keys
      = ["gone"] ∧
    "gone" ∉ (between keptAndNew keptAndGone).added := by
  obtain ⟨disjoint, -, -, anyOrder, -⟩ := changes_partition_items keptAndNew keptAndGone
  obtain ⟨sets, states⟩ := anyOrder keptAndNew.entries.reverse keptAndGone.keys.reverse
    (List.reverse_perm _) (List.reverse_perm _)
  refine ⟨(states "edit").trans (by decide +kernel), (sets .deleted).trans (by decide +kernel), ?_⟩
  exact disjoint .deleted .added (by decide) "gone" (by decide +kernel)

end ChangeSet

end DataSync
