import DataSync.Source.Basic

/-!
# Calls of sources

The calls that a session may make of a source, as data, so that a history of a source is a list of
them.  A source is usable if it is open and has not failed as a whole; only then does a call for an
item reach the backend, and here stands what it answers and leaves behind.
-/

namespace DataSync

inductive ItemCall where
  | read (luid : Luid)
  | insert (luid : Option Luid) (content : Bytes)
  | delete (luid : Luid)
deriving DecidableEq

inductive SourceCall where
  | begin (mode : SyncMode)
  | item (call : ItemCall)
  | recordFailure (luid : Luid)
  | fail (reason : String)
  | finish (success : Bool)
deriving DecidableEq

inductive ItemAnswer where
  | content (bytes : Bytes)
  | inserted (inserted : Inserted)
  | deleted
deriving DecidableEq

inductive SourceAnswer where
  | changes (changes : ChangeSet)
  | item (answer : ItemAnswer)
  | noted
  | committed (committed : Bool)
deriving DecidableEq

variable {β ν : Type}

section Performance

variable [Backend β]

def ItemCall.perform : ItemCall → Action (Source β ν) SourceError ItemAnswer
  | .read luid => .content <$> Source.readItem luid
  | .insert luid content => .inserted <$> Source.insertItem luid content
  | .delete luid => (fun _ => .deleted) <$> Source.deleteItem luid

variable [PropertyNode ν]

def SourceCall.perform : SourceCall → Action (Source β ν) SourceError SourceAnswer
  | .begin mode => .changes <$> Source.beginSync mode
  | .item call => .item <$> call.perform
  | .recordFailure luid => .of fun source => (.ok .noted, source.recordFailure luid)
  | .fail reason => .of fun source => (.ok .noted, source.fail reason)
  | .finish success => .committed <$> Source.endSync success

/-- A source that no session has begun yet. -/
def Source.fresh (backend : β) (node : Option ν) : Source β ν :=
  { backend, tracking := node.map fun node => { node } }

/-- The source after calls, one after the other. -/
def Source.after (calls : List SourceCall) (source : Source β ν) : Source β ν :=
  calls.foldl (fun source call => call.perform.stateAfter source) source

end Performance

namespace Source

open DataSync.Action

/-! ## Notes of failures -/

section Notes

variable (e : SourceError) (source : Source β ν)

@[simp] theorem note_backend : (source.note e).backend = source.backend := by
  unfold note fail
  split <;> rfl

@[simp] theorem note_tracking : (source.note e).tracking = source.tracking := by
  unfold note fail
  split <;> rfl

@[simp] theorem note_current : (source.note e).current = source.current := by
  unfold note fail
  split <;> rfl

@[simp] theorem note_isOpen : (source.note e).isOpen = source.isOpen := by
  unfold note fail
  split <;> rfl

theorem note_failure_eq_none :
    (source.note e).failure = none ↔ source.failure = none ∧ e.isFatal = false := by
  unfold note fail
  cases failure : source.failure <;> cases fatal : e.isFatal <;> simp [failure]

end Notes

/-! ## Usable sources -/

def Usable (source : Source β ν) : Prop :=
  source.isOpen = true ∧ source.failure = none

theorem on_noting {α : Type} (action : Action (Source β ν) SourceError α) (source : Source β ν) :
    (noting action).on source = match action.on source with
      | (.ok a, source) => (.ok a, source)
      | (.error e, source) => (.error e, source.note e) := rfl

theorem on_onBackend {α : Type} (call : Action β SourceError α) (source : Source β ν) :
    (onBackend call).on source =
      ((call.on source.backend).1, { source with backend := (call.on source.backend).2 }) := rfl

theorem asAdded_stored (current : RevisionMap) (inserted : Inserted) :
    (asAdded current inserted).luid = inserted.luid ∧
      (asAdded current inserted).revision = inserted.revision := by
  unfold asAdded
  split <;> exact ⟨rfl, rfl⟩

variable [Backend β]

theorem on_check {source : Source β ν} (usable : source.Usable) :
    check.on source = (.ok (), source) := by
  simp [check, usable.1, usable.2]

theorem on_check_of_not_usable {source : Source β ν} (unusable : ¬ source.Usable) :
    ∃ e, e.isFatal = true ∧ check.on source = (.error e, source) := by
  simp only [check, on_of]
  split
  · exact ⟨_, rfl, rfl⟩
  · rename_i works
    have isClosed : source.isOpen = false := by simpa [Usable, works] using unusable
    exact ⟨_, rfl, by rw [isClosed]; rfl⟩

theorem on_readItem (luid : Luid) {source : Source β ν} (usable : source.Usable) :
    (readItem luid).on source = match (Backend.read luid).on source.backend with
      | (.ok content, backend) => (.ok content, { source with backend })
      | (.error e, backend) => (.error e, { source with backend }.note e) := by
  simp only [readItem, on_bind, on_check usable, on_noting, on_onBackend]
  cases (Backend.read luid).on source.backend with
  | mk answer backend => cases answer <;> rfl

/-- The revisions after an item was stored, perhaps under another identifier than the one asked
for. -/
def currentAfterInsert (luid : Option Luid) (inserted : Inserted) (current : RevisionMap) :
    RevisionMap :=
  let kept := match luid with
    | none => current
    | some requested =>
      if requested = inserted.luid then current else current.erase requested
  kept.insert inserted.luid inserted.revision

def insertAnswer (luid : Option Luid) (inserted : Inserted) (current : RevisionMap) : Inserted :=
  if luid.isNone then asAdded current inserted else inserted

theorem on_insertItem (luid : Option Luid) (content : Bytes) {source : Source β ν}
    (usable : source.Usable) :
    (insertItem luid content).on source = match (Backend.insert luid content).on source.backend with
      | (.ok inserted, backend) => (.ok (insertAnswer luid inserted source.current),
          { source with backend, current := currentAfterInsert luid inserted source.current })
      | (.error e, backend) => (.error e, { source with backend }.note e) := by
  simp only [insertItem, on_bind, on_check usable, on_noting, on_onBackend]
  cases (Backend.insert luid content).on source.backend with
  | mk answer backend =>
    cases answer with
    | error e => rfl
    | ok inserted =>
      cases luid with
      | some requested => rfl
      | none =>
        -- An item that hit another one was still stored where the backend says.
        obtain ⟨sameLuid, sameRevision⟩ := asAdded_stored source.current inserted
        simp [insertAnswer, currentAfterInsert, sameLuid, sameRevision]

theorem on_deleteItem (luid : Luid) {source : Source β ν} (usable : source.Usable) :
    (deleteItem luid).on source = match (Backend.remove luid).on source.backend with
      | (.ok (), backend) => (.ok (), { source with backend, current := source.current.erase luid })
      | (.error e, backend) =>
        (.error e, { source with
          backend
          current := match e with
            | .notFound _ => source.current.erase luid
            | _ => source.current }.note e) := by
  simp only [deleteItem, on_bind, on_check usable, on_noting, on_of, on_onBackend]
  cases (Backend.remove luid).on source.backend with
  | mk answer backend =>
    cases answer with
    | error e => cases e <;> rfl
    | ok _ => rfl

end Source

/-- A source that is not usable refuses every call for an item and stays as it is. -/
theorem ItemCall.on_perform_of_not_usable [Backend β] (call : ItemCall) {source : Source β ν}
    (unusable : ¬ source.Usable) :
    ∃ e, e.isFatal = true ∧ call.perform.on source = (.error e, source) := by
  obtain ⟨e, fatal, refused⟩ := Source.on_check_of_not_usable unusable
  refine ⟨e, fatal, ?_⟩
  cases call <;>
    simp [perform, Source.readItem, Source.insertItem, Source.deleteItem, Action.on_bind, refused]

/-- A call for an item changes the backend and the current revisions only; of an error it leaves a
note. -/
theorem ItemCall.perform_cases [Backend β] (call : ItemCall) {source : Source β ν}
    (usable : source.Usable) :
    ∃ backend current,
      (∃ answer, call.perform.on source = (.ok answer, { source with backend, current })) ∨
        ∃ e, call.perform.on source = (.error e, { source with backend, current }.note e) := by
  cases call with
  | read luid =>
    rw [perform, Action.on_map, Source.on_readItem luid usable]
    rcases (Backend.read luid).on source.backend with ⟨e | content, backend⟩
    · exact ⟨backend, source.current, .inr ⟨e, rfl⟩⟩
    · exact ⟨backend, source.current, .inl ⟨_, rfl⟩⟩
  | insert luid content =>
    rw [perform, Action.on_map, Source.on_insertItem luid content usable]
    rcases (Backend.insert luid content).on source.backend with ⟨e | inserted, backend⟩
    · exact ⟨backend, source.current, .inr ⟨e, rfl⟩⟩
    · exact ⟨backend, _, .inl ⟨_, rfl⟩⟩
  | delete luid =>
    rw [perform, Action.on_map, Source.on_deleteItem luid usable]
    rcases (Backend.remove luid).on source.backend with ⟨e | ⟨⟩, backend⟩
    · exact ⟨backend, _, .inr ⟨e, rfl⟩⟩
    · exact ⟨backend, _, .inl ⟨_, rfl⟩⟩

theorem ItemCall.tracking_perform [Backend β] (call : ItemCall) (source : Source β ν) :
    (call.perform.stateAfter source).tracking = source.tracking := by
  unfold Action.stateAfter
  by_cases usable : source.Usable
  · obtain ⟨backend, current, ⟨answer, performed⟩ | ⟨e, performed⟩⟩ := call.perform_cases usable
    · rw [performed]
    · rw [performed, Source.note_tracking]
  · obtain ⟨e, -, refused⟩ := call.on_perform_of_not_usable usable
    rw [refused]

/-- A source has failed after a call only if it had failed before, or the call did so for the source
as a whole. -/
theorem ItemCall.failure_perform [Backend β] (call : ItemCall) {source : Source β ν}
    (sound : source.failure = none)
    (harmless : ∀ e, (call.perform.on source).1 = .error e → e.isFatal = false) :
    (call.perform.stateAfter source).failure = none := by
  unfold Action.stateAfter
  by_cases usable : source.Usable
  · obtain ⟨backend, current, ⟨answer, performed⟩ | ⟨e, performed⟩⟩ := call.perform_cases usable
    · rw [performed]
      exact sound
    · rw [performed] at harmless ⊢
      exact (Source.note_failure_eq_none e _).2 ⟨sound, harmless e rfl⟩
  · obtain ⟨e, -, refused⟩ := call.on_perform_of_not_usable usable
    rw [refused]
    exact sound

end DataSync
