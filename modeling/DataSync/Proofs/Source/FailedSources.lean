import DataSync.Proofs.Source.Standing

/-!
# Failed sources

A source that has failed as a whole is out of use until the next session begins.  Every call for an
item is refused with the reason of the failure, the end of the session commits nothing, and of the
backend nothing is called but, at that end, its closing.  The reason is that of the first call that
failed for the source as a whole, unless somebody declares another one.
-/

namespace DataSync

open DataSync.Action

/-- The reason that an error gives for the failure of a source as a whole. -/
def SourceError.fatalReason? (e : SourceError) : Option String :=
  if e.isFatal then some e.message else none

theorem SourceError.fatalReason?_eq_some {e : SourceError} {reason : String} :
    e.fatalReason? = some reason ↔ e.isFatal = true ∧ e.message = reason := by
  unfold fatalReason?
  split <;> simp_all

namespace SourceCall

def isBegin : SourceCall → Bool
  | begin _ => true
  | _ => false

/-- The reason why a source is failed after a call, if it was failed for a reason before. -/
def reasonAfter (reason : String) : SourceCall → String
  | fail declared => declared
  | _ => reason

/-- What is left of a reason after calls: the one declared last, if any was. -/
def lastReason (reason : String) (calls : List SourceCall) : String :=
  calls.foldl reasonAfter reason

end SourceCall

variable {β ν : Type} {source : Source β ν} {reason : String}

/-! ## How a source fails -/

namespace Source

theorem failure_note (e : SourceError) (source : Source β ν) :
    (source.note e).failure = source.failure.or e.fatalReason? := by
  unfold note fail SourceError.fatalReason?
  cases failure : source.failure <;> cases fatal : e.isFatal <;> simp [failure]

theorem failure_commit [PropertyNode ν] (source : Source β ν) :
    (commit.stateAfter source).failure = source.failure := by
  rw [stateAfter]
  cases tracked : source.tracking with
  | none => rw [on_commit_untracked tracked]
  | some tracking =>
    rw [on_commit tracked]
    rcases (RevisionStore.save (tracking.commitMap source.current)).on tracking.node with
      ⟨_ | _, node⟩ <;> rfl

variable [Backend β]

theorem failure_closeBackend (source : Source β ν) :
    (closeBackend.stateAfter source).failure = source.failure := by
  simp only [closeBackend, stateAfter, on_of]
  split <;> rfl

variable [PropertyNode ν]

theorem failure_beginSync (mode : SyncMode) (source : Source β ν) :
    ((beginSync mode).stateAfter source).failure =
      match ((beginSync mode).on source).1 with
      | .ok _ => none
      | .error e => e.fatalReason? := by
  rw [stateAfter]
  cases enabled : mode.isEnabled with
  | false => rw [on_beginSync_disabled enabled]; rfl
  | true =>
    rw [on_beginSync enabled, on_noting]
    obtain ⟨e, backend, isOpen, previous, failed⟩ | ⟨changes, backend, current, previous, succeeded⟩ :=
      detectChanges_cases (source.cleared mode)
    · rw [failed]
      exact failure_note e _
    · rw [succeeded]
      rfl

/-- A new session begins like one of a source that has never failed. -/
theorem on_beginSync_of_failed (mode : SyncMode) (source : Source β ν) :
    (beginSync mode).on source = (beginSync mode).on { source with failure := none } := by
  cases enabled : mode.isEnabled with
  | false => rw [on_beginSync_disabled enabled, on_beginSync_disabled enabled]; rfl
  | true => rw [on_beginSync enabled, on_beginSync enabled]; rfl

/-- Of the errors at the end of a session only one of the commit is noted, not one of closing the
backend. -/
theorem failure_endSync (success : Bool) (source : Source β ν) :
    ((endSync success).stateAfter source).failure = source.failure ∨
      ∃ e, ((endSync success).on source).1 = .error e ∧
        ((endSync success).stateAfter source).failure = source.failure.or e.fatalReason? := by
  by_cases committing : success = true ∧ source.Usable
  case neg =>
    left
    rw [stateAfter, on_endSync_without_commit committing]
    exact failure_closeBackend source
  obtain ⟨rfl, usable⟩ := committing
  have kept : (closeBackend.stateAfter (commit.stateAfter source)).failure = source.failure :=
    (failure_closeBackend _).trans (failure_commit source)
  rw [stateAfter, on_endSync usable]
  cases (commit.on source).1 with
  | error e => exact .inr ⟨e, rfl, by rw [failure_note, kept]⟩
  | ok committed =>
    left
    cases (closeBackend.on (commit.stateAfter source)).1 <;> exact kept

end Source

variable [Backend β]

theorem ItemCall.failure_cases (call : ItemCall) (source : Source β ν) :
    (call.perform.stateAfter source).failure = source.failure ∨
      ∃ e, (call.perform.on source).1 = .error e ∧
        (call.perform.stateAfter source).failure = source.failure.or e.fatalReason? := by
  unfold Action.stateAfter
  by_cases usable : source.Usable
  · obtain ⟨backend, current, ⟨answer, performed⟩ | ⟨e, performed⟩⟩ := call.perform_cases usable
    · left
      rw [performed]
    · right
      rw [performed]
      exact ⟨e, rfl, Source.failure_note e _⟩
  · obtain ⟨e, -, refused⟩ := call.on_perform_of_not_usable usable
    left
    rw [refused]

namespace SourceCall

variable [PropertyNode ν]

/-- Apart from a declared failure, a call that begins no session leaves the failure of a source as it
is, or adds that of the error that it answers. -/
theorem failure_cases {call : SourceCall} (later : call.isBegin = false)
    (undeclared : ∀ declared, call ≠ .fail declared) (source : Source β ν) :
    (call.perform.stateAfter source).failure = source.failure ∨
      ∃ e, (call.perform.on source).1 = .error e ∧
        (call.perform.stateAfter source).failure = source.failure.or e.fatalReason? := by
  cases call with
  | begin mode => cases later
  | fail declared => exact absurd rfl (undeclared declared)
  | recordFailure luid => exact .inl rfl
  | item call =>
    rw [perform, stateAfter_map, on_map]
    obtain same | ⟨e, answered, noted⟩ := call.failure_cases source
    · exact .inl same
    · exact .inr ⟨e, by rw [answered]; rfl, noted⟩
  | finish success =>
    rw [perform, stateAfter_map, on_map]
    obtain same | ⟨e, answered, noted⟩ := Source.failure_endSync success source
    · exact .inl same
    · exact .inr ⟨e, by rw [answered]; rfl, noted⟩

/-- The call is the first of its session by which the source fails as a whole: it declares the
failure, or answers with an error that concerns the source as a whole. -/
structure Breaks (call : SourceCall) (source : Source β ν) (reason : String) : Prop where
  first : call.isBegin = true ∨ source.failure = none
  gives : call = .fail reason ∨
    ∃ e, (call.perform.on source).1 = .error e ∧ e.isFatal = true ∧ e.message = reason

theorem breaks_of_begin {mode : SyncMode}
    (failed : ((SourceCall.begin mode).perform.stateAfter source).failure = some reason) :
    (SourceCall.begin mode).Breaks source reason := by
  rw [perform, stateAfter_map, Source.failure_beginSync] at failed
  cases answer : ((Source.beginSync mode).on source).1 with
  | ok changes => simp [answer] at failed
  | error e =>
    rw [answer] at failed
    obtain ⟨fatal, message⟩ := SourceError.fatalReason?_eq_some.1 failed
    exact ⟨.inl rfl, .inr ⟨e, by rw [perform, on_map, answer]; rfl, fatal, message⟩⟩

theorem breaks_of_sound {call : SourceCall} (later : call.isBegin = false)
    (sound : source.failure = none)
    (failed : (call.perform.stateAfter source).failure = some reason) :
    call.Breaks source reason := by
  refine ⟨.inr sound, ?_⟩
  by_cases declares : ∃ declared, call = .fail declared
  · obtain ⟨declared, rfl⟩ := declares
    cases failed
    exact .inl rfl
  · have undeclared : ∀ declared, call ≠ .fail declared := fun declared same =>
      declares ⟨declared, same⟩
    obtain same | ⟨e, answered, noted⟩ := failure_cases later undeclared source
    · rw [same, sound] at failed
      cases failed
    · rw [noted, sound, Option.none_or] at failed
      exact .inr ⟨e, answered, SourceError.fatalReason?_eq_some.1 failed⟩

/-- The reason of a failure stands until another one is declared. -/
theorem failure_of_failed {call : SourceCall} (later : call.isBegin = false)
    (failed : source.failure = some reason) :
    (call.perform.stateAfter source).failure = some (call.reasonAfter reason) := by
  cases call with
  | fail declared => rfl
  | begin mode => cases later
  | item call | recordFailure luid | finish success =>
    obtain same | ⟨e, -, noted⟩ := failure_cases later (by simp) source
    · rw [same, failed]
      rfl
    · rw [noted, failed]
      rfl

end SourceCall

namespace Source

variable [PropertyNode ν]

/-- Every failure of a source goes back to a call of the session that it is in. -/
theorem exists_breaks_of_failed (calls : List SourceCall) (sound : source.failure = none)
    (failed : (source.after calls).failure = some reason) :
    ∃ before call later first, calls = before ++ call :: later ∧
      (∀ call ∈ later, call.isBegin = false) ∧ call.Breaks (source.after before) first ∧
      reason = SourceCall.lastReason first later := by
  induction calls using List.reverseRecOn generalizing reason with
  | nil =>
    rw [after, List.foldl_nil, sound] at failed
    cases failed
  | append_singleton calls call inductionHypothesis =>
    rw [after_concat] at failed
    cases begins : call.isBegin with
    | true =>
      cases call with
      | begin mode =>
        exact ⟨calls, _, [], reason, rfl, by simp, SourceCall.breaks_of_begin failed, rfl⟩
      | _ => cases begins
    | false =>
      cases standing : (source.after calls).failure with
      | none =>
        exact ⟨calls, call, [], reason, rfl, by simp,
          SourceCall.breaks_of_sound begins standing failed, rfl⟩
      | some earlier =>
        -- The source had failed before, and this call at most declared another reason.
        obtain ⟨before, breaking, later, first, rfl, none, breaks, rfl⟩ :=
          inductionHypothesis standing
        rw [SourceCall.failure_of_failed begins standing] at failed
        cases failed
        refine ⟨before, breaking, later ++ [call], first, by simp, ?_, breaks, ?_⟩
        · intro other member
          obtain earlier | last := List.mem_append.1 member
          · exact none other earlier
          · rw [List.mem_singleton.1 last]
            exact begins
        · simp [SourceCall.lastReason]

end Source

/-! ## After the failure -/

theorem ItemCall.on_perform_of_failed (call : ItemCall) (failed : source.failure = some reason) :
    call.perform.on source = (.error (.backend source.name reason true), source) := by
  have refused : Source.check.on source = (.error (.backend source.name reason true), source) := by
    simp [Source.check, failed]
  cases call <;>
    simp [perform, Source.readItem, Source.insertItem, Source.deleteItem, on_bind, refused]

namespace Source

/-- The source has failed, its node is the one from when it did, and its backend, too, unless it was
closed since. -/
structure OutOfUse (reason : String) (start source : Source β ν) : Prop where
  failure : source.failure = some reason
  node : source.tracking.map (·.node) = start.tracking.map (·.node)
  backend : source.backend = start.backend ∨
    source.isOpen = false ∧ source.backend = Backend.closeItems.stateAfter start.backend

variable [PropertyNode ν] {start : Source β ν}

theorem OutOfUse.finish (success : Bool) (unused : OutOfUse reason start source) :
    OutOfUse reason start ((endSync success).stateAfter source) := by
  have spoiled : ¬ (success = true ∧ source.Usable) := by
    rintro ⟨-, -, sound⟩
    rw [unused.failure] at sound
    cases sound
  have ended : (endSync success).stateAfter source = closeBackend.stateAfter source := by
    rw [stateAfter, on_endSync_without_commit spoiled]
    rfl
  rw [ended]
  refine ⟨?_, ?_, ?_⟩
  · rw [failure_closeBackend, unused.failure]
  · rw [tracking_closeBackend, unused.node]
  · simp only [closeBackend, stateAfter, on_of]
    obtain same | ⟨closed, same⟩ := unused.backend
    · split
      · exact .inr ⟨rfl, by rw [on_onBackend, same]⟩
      · exact .inl same
    · rw [closed]
      exact .inr ⟨closed, same⟩

theorem OutOfUse.perform {call : SourceCall} (later : call.isBegin = false)
    (unused : OutOfUse reason start source) :
    OutOfUse (call.reasonAfter reason) start (call.perform.stateAfter source) := by
  cases call with
  | begin mode => cases later
  | finish success =>
    rw [SourceCall.perform, stateAfter_map]
    exact unused.finish success
  | item call =>
    rw [SourceCall.perform, stateAfter_map, stateAfter, call.on_perform_of_failed unused.failure]
    exact unused
  | fail declared => exact ⟨rfl, unused.node, unused.backend⟩
  | recordFailure luid =>
    refine ⟨unused.failure, ?_, unused.backend⟩
    simp only [SourceCall.perform, stateAfter, on_of, recordFailure, Option.map_map]
    exact unused.node

theorem OutOfUse.after {later : List SourceCall} (noBegin : ∀ call ∈ later, call.isBegin = false)
    (unused : OutOfUse reason start source) :
    OutOfUse (SourceCall.lastReason reason later) start (source.after later) := by
  induction later generalizing source reason with
  | nil => exact unused
  | cons call rest inductionHypothesis =>
    obtain ⟨begins, rest⟩ := List.forall_mem_cons.1 noBegin
    exact inductionHypothesis rest (unused.perform begins)

/-- A source that has failed did so by a call of its session, and until the next one begins it stays
failed, for the reason given first or declared last.  It refuses every call for an item and stays as
it is, never answers that it committed, and neither writes to its node nor calls its backend other
than to close it.  The next session begins like one of a source without failure, and leaves one only
if it fails itself. -/
theorem failed_until_next_begin (backend : β) (node : Option ν) (calls later : List SourceCall)
    {reason : String} (failed : ((fresh backend node).after calls).failure = some reason)
    (noBegin : ∀ call ∈ later, call.isBegin = false) :
    (∃ before call since first, calls = before ++ call :: since ∧
      (∀ call ∈ since, call.isBegin = false) ∧
      call.Breaks ((fresh backend node).after before) first ∧
      reason = SourceCall.lastReason first since) ∧
    let source := (fresh backend node).after calls
    let now := source.after later
    OutOfUse (SourceCall.lastReason reason later) source now ∧
    (∀ call : ItemCall, call.perform.on now =
      (.error (.backend now.name (SourceCall.lastReason reason later) true), now)) ∧
    (∀ success, ((endSync success).on now).1 ≠ .ok true) ∧
    ∀ mode, (beginSync mode).on now = (beginSync mode).on { now with failure := none } ∧
      ((beginSync mode).stateAfter now).failure =
        match ((beginSync mode).on now).1 with
        | .ok _ => none
        | .error e => if e.isFatal then some e.message else none := by
  refine ⟨exists_breaks_of_failed calls rfl failed, ?_⟩
  intro source now
  have unused : OutOfUse (SourceCall.lastReason reason later) source now :=
    OutOfUse.after noBegin ⟨failed, rfl, .inl rfl⟩
  refine ⟨unused, fun call => call.on_perform_of_failed unused.failure, ?_, ?_⟩
  · intro success committed
    have sound := (endSync_eq_ok_true.1 committed).2.1.2
    rw [unused.failure] at sound
    cases sound
  · intro mode
    exact ⟨on_beginSync_of_failed mode now, failure_beginSync mode now⟩

/-- Notes whose items cannot be listed any more. -/
def lostNotes : MemoryBackend :=
  { name := "notes", failsStorage := some "database gone" }

theorem failed_until_next_begin_of_lostNotes :
    ((fresh lostNotes oneNote).after [.begin .twoWay]).failure =
      some "notes: database gone" ∧
    OutOfUse "given up" ((fresh lostNotes oneNote).after [.begin .twoWay])
      (((fresh lostNotes oneNote).after [.begin .twoWay]).after
        [.item (.read "1"), .fail "given up", .finish true]) :=
  ⟨rfl, (failed_until_next_begin lostNotes oneNote [.begin .twoWay]
    [.item (.read "1"), .fail "given up", .finish true] rfl (by decide)).2.1⟩

end Source

end DataSync
