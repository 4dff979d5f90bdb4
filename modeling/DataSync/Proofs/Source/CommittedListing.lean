import DataSync.Proofs.Source.KnownRevisions
import DataSync.Proofs.Source.Persisted
import DataSync.Storage.MemoryNode

/-!
# Committed listings

A whole session of a source over a backend in memory: it begins, accesses items of which some fail,
and commits.  The committed revisions are those that the backend lists at the end, except that failed
items keep the revision that was committed before.
-/

namespace DataSync

open DataSync.Action

/-- What happens to a source between the beginning and the end of a session. -/
inductive SessionStep where
  | item (call : ItemCall)
  | recordFailure (luid : Luid)
  /-- From now on the backend fails for other items. -/
  | inject (failsInsert failsRead failsRemove : LuidSet)
deriving DecidableEq

variable {ν : Type}

def SessionStep.apply : SessionStep → Source MemoryBackend ν → Source MemoryBackend ν
  | item call, source => call.perform.stateAfter source
  | recordFailure luid, source => source.recordFailure luid
  | inject failsInsert failsRead failsRemove, source =>
    { source with backend := { source.backend with failsInsert, failsRead, failsRemove } }

namespace Source

def afterSteps (steps : List SessionStep) (source : Source MemoryBackend ν) :
    Source MemoryBackend ν :=
  steps.foldl (fun source step => step.apply source) source

/-- The source after steps of a session that loaded revisions from a node. -/
structure Underway (node : ν) (loaded : RevisionMap) (steps : List SessionStep)
    (source : Source MemoryBackend ν) : Prop where
  reflects : source.Reflects
  tracked : ∃ failed, source.tracking = some { node, previous := loaded, failed } ∧
    ∀ luid, failed.contains luid ↔ SessionStep.recordFailure luid ∈ steps

namespace Underway

variable {node : ν} {loaded : RevisionMap} {steps : List SessionStep}
  {source : Source MemoryBackend ν}

theorem step (step : SessionStep) (underway : source.Underway node loaded steps) :
    (step.apply source).Underway node loaded (steps ++ [step]) := by
  obtain ⟨reflects, failed, tracked, recorded⟩ := underway
  cases step with
  | item call =>
    refine ⟨reflects.item call, failed, (call.tracking_perform source).trans tracked, fun luid => ?_⟩
    simp [recorded]
  | recordFailure luid =>
    refine ⟨reflects.recordFailure luid, failed.insert luid (), by
      simp [SessionStep.apply, Source.recordFailure, tracked], fun key => ?_⟩
    have before := recorded key
    by_cases same : key = luid <;> simp_all [Table.contains]
  | inject failsInsert failsRead failsRemove =>
    exact ⟨⟨reflects.ready, reflects.current_eq⟩, failed, tracked, by simp [recorded]⟩

theorem afterSteps (more : List SessionStep) (underway : source.Underway node loaded steps) :
    (source.afterSteps more).Underway node loaded (steps ++ more) := by
  induction more generalizing steps source with
  | nil => simpa [Source.afterSteps] using underway
  | cons step rest inductionHypothesis =>
    simpa [Source.afterSteps] using inductionHypothesis (underway.step step)

end Underway

variable [PropertyNode ν]

theorem underway_of_beginSync {mode : SyncMode} {changes : ChangeSet} {tracking : Tracking ν}
    {source begun : Source MemoryBackend ν} (enabled : mode.isEnabled = true)
    (tracked : source.tracking = some tracking)
    (begins : (beginSync mode).on source = (.ok changes, begun)) :
    ∃ loaded, RevisionStore.load tracking.node = .ok loaded ∧
      begun.Underway tracking.node loaded [] := by
  obtain ⟨reflects, loaded, loads, trackedAfter⟩ := reflects_of_beginSync enabled tracked begins
  exact ⟨loaded, loads, reflects, .empty, trackedAfter, fun luid => by simp [Table.contains]⟩

/-- After every step of a session the known revisions are the listing of the backend, and a commit
leaves this listing with the failed items as they were committed before. -/
theorem committed_revisions_eq_listing [LawfulNode ν] {mode : SyncMode} {changes : ChangeSet}
    {tracking : Tracking ν} {source begun : Source MemoryBackend ν}
    (enabled : mode.isEnabled = true) (tracked : source.tracking = some tracking)
    (begins : (beginSync mode).on source = (.ok changes, begun)) (steps : List SessionStep) :
    ∃ listing, Backend.list.on (begun.afterSteps steps).backend =
        (.ok listing, (begun.afterSteps steps).backend) ∧
      (begun.afterSteps steps).current = listing ∧
      ∀ ended, (endSync true).on (begun.afterSteps steps) = (.ok true, ended) →
        ∃ loaded after committed, RevisionStore.load tracking.node = .ok loaded ∧
          ended.tracking = some after ∧ RevisionStore.load after.node = .ok committed ∧
          ∀ luid, committed.get? luid =
            if .recordFailure luid ∈ steps then loaded.get? luid else listing.get? luid := by
  obtain ⟨loaded, loads, atBegin⟩ := underway_of_beginSync enabled tracked begins
  -- The invariant at the last step speaks of all failures that were recorded since the beginning.
  obtain ⟨reflects, failed, trackedAtEnd, recorded⟩ := atBegin.afterSteps steps
  refine ⟨_, reflects.on_list, rfl, fun ended ends => ?_⟩
  have answered : ((endSync true).on (begun.afterSteps steps)).1 = .ok true := by rw [ends]
  obtain ⟨tracking, trackedBefore, holds⟩ := persisted_endSync_of_committed answered
  rw [trackedAtEnd] at trackedBefore
  cases trackedBefore
  rw [stateAfter, ends] at holds
  obtain ⟨after, trackedAfter, committed⟩ := load_of_persisted holds
  refine ⟨loaded, after, _, loads, trackedAfter, committed, fun luid => ?_⟩
  rw [Tracking.get?_commitMap]
  simp only [recorded, List.nil_append]

/-- Two notes, of which the second one changed since it was committed. -/
def twoNotes : Source MemoryBackend MemoryNode where
  backend := MemoryBackend.withItems [("1", [97]), ("2", [98])] { name := "notes" }
  tracking := some { node := .holding "notes" (.ofList [("1", "1"), ("2", "1")]) }

/-- The first note is removed and a third one stored, then reading the second one fails. -/
def spoiledReading : List SessionStep :=
  [.item (.delete "1"), .item (.insert (some "3") [99]), .inject .empty (.ofList [("2", ())]) .empty,
    .item (.read "2"), .recordFailure "2"]

theorem committed_revisions_of_twoNotes :
    ∃ changes begun ended after committed,
      (beginSync .twoWay).on twoNotes = (.ok changes, begun) ∧
      (endSync true).on (begun.afterSteps spoiledReading) = (.ok true, ended) ∧
      ended.tracking = some after ∧ RevisionStore.load after.node = .ok committed ∧
      committed.get? "1" = none ∧ committed.get? "2" = some "1" ∧ committed.get? "3" = some "3" := by
  have enabled : SyncMode.twoWay.isEnabled = true := rfl
  obtain ⟨changes, begun, begins, ended, ends, known⟩ : ∃ changes begun,
      (beginSync .twoWay).on twoNotes = (.ok changes, begun) ∧ ∃ ended,
      (endSync true).on (begun.afterSteps spoiledReading) = (.ok true, ended) ∧
      (begun.afterSteps spoiledReading).current.entries = [("2", "2"), ("3", "3")] :=
    ⟨_, _, rfl, _, rfl, rfl⟩
  obtain ⟨listing, _, listed, commits⟩ :=
    committed_revisions_eq_listing enabled rfl begins spoiledReading
  obtain ⟨loaded, after, committed, loads, tracked, stored, revisions⟩ := commits ended ends
  cases loads
  refine ⟨changes, begun, ended, after, committed, begins, ends, tracked, stored, ?_, ?_, ?_⟩
  all_goals
    rw [revisions, ← listed, Table.get?, Table.get?, known]
    rfl

end Source

end DataSync
