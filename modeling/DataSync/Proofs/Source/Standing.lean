import DataSync.Proofs.Source.Beginning
import DataSync.Proofs.Source.Ending
import DataSync.Proofs.Storage.LawfulNode
import DataSync.Source.MemoryBackend
import Mathlib.Data.List.Induction

/-!
# Sources in use

Which histories of calls leave a source usable, so that items can be accessed and revisions committed.
The last beginning decides, if no end came after it: it succeeded in a mode that takes part, or it went
astray.  A beginning goes astray if it leaves the backend open without success: it failed with an
error of a single item, or it disabled a source whose session before was never ended.  A source whose
beginning went astray knows no revisions, and a commit of it forgets all that were committed.
-/

namespace DataSync

def SourceCall.isAmid : SourceCall → Bool
  | begin _ | finish _ => false
  | item _ | recordFailure _ | fail _ => true

namespace Source

open DataSync.Action

variable {β ν : Type} [Backend β] [PropertyNode ν]

/-- The source begins a session in a mode that takes part. -/
def BeginsProperly (mode : SyncMode) (source : Source β ν) : Prop :=
  mode.isEnabled = true ∧ ∃ changes, ((beginSync mode).on source).1 = .ok changes

/-- The source is left open by a beginning that disabled it or failed with an error of an item. -/
def BeginsAstray (mode : SyncMode) (source : Source β ν) : Prop :=
  ((beginSync mode).stateAfter source).isOpen = true ∧
    (mode.isEnabled = false ∨
      ∃ e, ((beginSync mode).on source).1 = .error e ∧ e.isFatal = false)

/-- The last beginning in a history of a source was like this, and no end came after it. -/
def SinceBegin (like : SyncMode → Source β ν → Prop) (calls : List SourceCall)
    (source : Source β ν) : Prop :=
  ∃ before mode later, calls = before ++ .begin mode :: later ∧
    (∀ call ∈ later, call.isAmid = true) ∧ like mode (source.after before)

variable {like : SyncMode → Source β ν → Prop} {calls : List SourceCall} {source : Source β ν}

theorem after_concat (calls : List SourceCall) (call : SourceCall) (source : Source β ν) :
    source.after (calls ++ [call]) = call.perform.stateAfter (source.after calls) := by
  simp [after]

theorem SinceBegin.concat {call : SourceCall} (amid : call.isAmid = true)
    (since : SinceBegin like calls source) : SinceBegin like (calls ++ [call]) source := by
  obtain ⟨before, mode, later, rfl, allAmid, begun⟩ := since
  refine ⟨before, mode, later ++ [call], by simp, fun other member => ?_, begun⟩
  obtain earlier | last := List.mem_append.1 member
  · exact allAmid other earlier
  · rw [List.mem_singleton.1 last]
    exact amid

theorem SinceBegin.of_begin {mode : SyncMode} (begun : like mode (source.after calls)) :
    SinceBegin like (calls ++ [.begin mode]) source :=
  ⟨calls, mode, [], rfl, by simp, begun⟩

/-! ## One call -/

theorem usable_of_amid {call : SourceCall} (amid : call.isAmid = true)
    (usable : (call.perform.stateAfter source).Usable) : source.Usable := by
  cases call with
  | begin mode => cases amid
  | finish success => cases amid
  | recordFailure luid => exact usable
  | fail reason => cases usable.2
  | item call =>
    rw [SourceCall.perform, stateAfter_map] at usable
    obtain usableBefore | unusable := Classical.em source.Usable
    · exact usableBefore
    · obtain ⟨_, _, refused⟩ := call.on_perform_of_not_usable unusable
      rw [stateAfter, refused] at usable
      exact usable

/-- Exactly a beginning that succeeds, or goes astray, leaves the source usable. -/
theorem usable_beginSync_iff (mode : SyncMode) (source : Source β ν) :
    ((beginSync mode).stateAfter source).Usable ↔
      BeginsProperly mode source ∨ BeginsAstray mode source := by
  cases enabled : mode.isEnabled with
  | false =>
    simp [BeginsProperly, BeginsAstray, enabled, stateAfter, on_beginSync_disabled enabled, Usable,
      cleared]
  | true =>
    simp only [BeginsProperly, BeginsAstray, enabled, stateAfter, on_beginSync enabled, on_noting]
    obtain ⟨e, backend, isOpen, previous, failed⟩ | ⟨changes, backend, current, previous, succeeded⟩ :=
      detectChanges_cases (source.cleared mode)
    · -- The error is noted only if it is one of the source as a whole.
      rw [failed]
      simp [Usable, note_failure_eq_none, withPrevious, cleared]
    · rw [succeeded]
      simp [Usable, withPrevious, cleared]

theorem not_beginsProperly_of_astray {mode : SyncMode} (astray : BeginsAstray mode source) :
    ¬ BeginsProperly mode source := by
  rintro ⟨enabled, changes, succeeded⟩
  obtain disabled | ⟨e, failed, -⟩ := astray.2
  · simp [enabled] at disabled
  · simp [succeeded] at failed

theorem commitMap_of_astray {mode : SyncMode} (astray : BeginsAstray mode source)
    {tracking : Tracking ν}
    (tracked : ((beginSync mode).stateAfter source).tracking = some tracking) :
    tracking.commitMap ((beginSync mode).stateAfter source).current = .empty := by
  suffices nothing : ((beginSync mode).stateAfter source).current = .empty ∧
      tracking.failed = .empty by
    rw [nothing.1, Tracking.commitMap, nothing.2]
    rfl
  obtain ⟨-, unsuccessful⟩ := astray
  cases enabled : mode.isEnabled with
  | false =>
    simp only [stateAfter, on_beginSync_disabled enabled, cleared, Option.map_eq_some_iff] at tracked ⊢
    obtain ⟨_, _, rfl⟩ := tracked
    exact ⟨trivial, rfl⟩
  | true =>
    simp only [enabled, stateAfter, on_beginSync enabled, on_noting] at unsuccessful tracked ⊢
    obtain ⟨e, backend, isOpen, previous, failed⟩ | ⟨changes, backend, current, previous, succeeded⟩ :=
      detectChanges_cases (source.cleared mode)
    · -- Nothing was listed since the source was cleared.
      rw [failed] at tracked ⊢
      simp only [note_tracking, note_current, withPrevious, cleared, Option.map_map,
        Option.map_eq_some_iff] at tracked ⊢
      obtain ⟨_, _, rfl⟩ := tracked
      exact ⟨trivial, rfl⟩
    · simp [succeeded] at unsuccessful

/-! ## Histories -/

theorem sinceBegin_of_usable (unused : ¬ source.Usable) (usable : (source.after calls).Usable) :
    SinceBegin (fun mode source => BeginsProperly mode source ∨ BeginsAstray mode source) calls
      source := by
  -- The last call either leaves the last beginning as it was, or is one, or ends the session.
  induction calls using List.reverseRecOn with
  | nil => exact absurd usable unused
  | append_singleton calls call inductionHypothesis =>
    rw [after_concat] at usable
    cases amid : call.isAmid with
    | true => exact (inductionHypothesis (usable_of_amid amid usable)).concat amid
    | false =>
      cases call with
      | begin mode =>
        rw [SourceCall.perform, stateAfter_map, usable_beginSync_iff] at usable
        exact .of_begin usable
      | finish success =>
        rw [SourceCall.perform, stateAfter_map] at usable
        have closed := isOpen_endSync success (source.after calls)
        rw [usable.1] at closed
        cases closed
      | _ => cases amid

theorem SinceBegin.or {first second : SyncMode → Source β ν → Prop}
    (since : SinceBegin (fun mode source => first mode source ∨ second mode source) calls source) :
    SinceBegin first calls source ∨ SinceBegin second calls source := by
  obtain ⟨before, mode, later, split, allAmid, begun | begun⟩ := since
  · exact .inl ⟨before, mode, later, split, allAmid, begun⟩
  · exact .inr ⟨before, mode, later, split, allAmid, begun⟩

/-- A source accesses items and commits only since a beginning that succeeded, or went astray.  One
that went astray does leave the source usable, and then there is nothing but the empty table to
commit. -/
theorem answers_sinceBegin (backend : β) (node : Option ν) (calls : List SourceCall) :
    (∀ (call : ItemCall) answer after,
      call.perform.on ((fresh backend node).after calls) = (.ok answer, after) →
        SinceBegin BeginsProperly calls (fresh backend node) ∨
          SinceBegin BeginsAstray calls (fresh backend node)) ∧
      (∀ success after,
        (endSync success).on ((fresh backend node).after calls) = (.ok true, after) →
          SinceBegin BeginsProperly calls (fresh backend node) ∨
            SinceBegin BeginsAstray calls (fresh backend node)) ∧
      ∀ before mode, calls = before ++ [.begin mode] →
        BeginsAstray mode ((fresh backend node).after before) →
          ¬ BeginsProperly mode ((fresh backend node).after before) ∧
            ((fresh backend node).after calls).Usable ∧
            ∀ tracking, ((fresh backend node).after calls).tracking = some tracking →
              tracking.commitMap ((fresh backend node).after calls).current = .empty := by
  have unused : ¬ (fresh backend node).Usable := fun usable => by cases usable.1
  refine ⟨fun call answer after answered => ?_, fun success after committed => ?_, ?_⟩
  · obtain usable | unusable := Classical.em ((fresh backend node).after calls).Usable
    · exact (sinceBegin_of_usable unused usable).or
    · obtain ⟨_, _, refused⟩ := call.on_perform_of_not_usable unusable
      rw [refused] at answered
      cases answered
  · have answer : ((endSync success).on ((fresh backend node).after calls)).1 = .ok true := by
      rw [committed]
    exact (sinceBegin_of_usable unused (endSync_eq_ok_true.1 answer).2.1).or
  · rintro before mode rfl astray
    rw [after_concat, SourceCall.perform, stateAfter_map]
    exact ⟨not_beginsProperly_of_astray astray, (usable_beginSync_iff mode _).2 (.inr astray),
      fun tracking => commitMap_of_astray astray⟩

/-- One note that was committed before. -/
def oneNote : Option MemoryNode :=
  some (.holding "notes" (.ofList [("1", "0")]))

theorem answers_sinceBegin_twoWay :
    ((ItemCall.read "1").perform.on ((fresh
      (MemoryBackend.withItems [("1", [97])] { name := "notes" }) oneNote).after
        [.begin .twoWay])).1 = .ok (.content [97]) ∧
    (SinceBegin BeginsProperly [.begin .twoWay]
        (fresh (MemoryBackend.withItems [("1", [97])] { name := "notes" }) oneNote) ∨
      SinceBegin BeginsAstray [.begin .twoWay]
        (fresh (MemoryBackend.withItems [("1", [97])] { name := "notes" }) oneNote)) :=
  ⟨rfl, (answers_sinceBegin _ oneNote [.begin .twoWay]).1 (.read "1") (.content [97]) _ rfl⟩

/-- A note that cannot be removed. -/
def lastingNote : MemoryBackend :=
  MemoryBackend.withItems [("1", [97])] { name := "notes", failsRemove := .ofList [("1", ())] }

/-- A wipe that failed is no proper beginning, but is followed by a commit. -/
theorem commits_after_failed_wipe :
    ¬ ∀ calls after, (endSync true).on ((fresh lastingNote oneNote).after calls) =
      (.ok true, after) → SinceBegin BeginsProperly calls (fresh lastingNote oneNote) := by
  intro proper
  obtain ⟨before, mode, later, split, -, enabled, changes, succeeded⟩ :=
    proper [.begin .refreshFromRemote] _ rfl
  cases before with
  | cons first rest =>
    simp at split
  | nil =>
    cases split
    cases succeeded

end Source

end DataSync
