import DataSync.Proofs.Session.Following
import DataSync.Rehearsal.BareAgent
import DataSync.Rehearsal.PlannedEngine
import DataSync.Rehearsal.Stage

/-!
# Requests that reach the engine

A request that comes while a session runs is what the engine is told next, whatever was due.  An
abort is told once, and then nothing is sent and nothing is told any more.  A request to suspend is
told once, too, unless it makes the session refuse a pause that is due after it was told.
-/

namespace DataSync

variable {state after : SessionState} {event : SessionEvent} {events : List SessionEvent}

/-! ## What moves do to requests -/

namespace Move

theorem pending_le (moved : Move state event after) :
    state.pending.rank ≤ after.pending.rank := by
  cases moved with
  | ask further => exact Nat.le_of_lt further
  | _ => exact Nat.le_refl _

theorem delivered_le (moved : Move state event after) (sound : state.Sound) :
    state.delivered.rank ≤ after.delivered.rank := by
  cases moved with
  | preempt _ => exact sound.known
  | interrupt => exact sound.known
  | _ => exact Nat.le_refl _

theorem delivered_eq (moved : Move state event after) (untold : event.told? = none) :
    after.delivered = state.delivered := by
  cases moved <;> first | rfl | cases untold

theorem after_told {input : StepInput} (moved : Move state (.told input) after) :
    after.delivered = state.pending ∧ after.phase = .working := by
  cases moved <;> exact ⟨rfl, rfl⟩

/-- The engine is told what it is due, or else the pending request: one that it does not know, or
one that interrupted the session. -/
theorem told_cases {input : StepInput} (moved : Move state (.told input) after)
    (sound : state.Sound) :
    state.phase = .ready input ∧ state.pending = state.delivered ∨
      state.pending ≠ .none ∧ input = state.pending.input .suspend ∧
        (state.delivered.rank < state.pending.rank ∨ state.phase = .interrupted) := by
  cases moved with
  | proceed => exact .inl ⟨rfl, rfl⟩
  | preempt undelivered =>
    have behind := sound.behind undelivered
    have requested := SessionRequest.ne_none_of_rank_lt behind
    exact .inr ⟨requested, SessionRequest.input_congr requested _ _, .inl behind⟩
  | interrupt => exact .inr ⟨sound.requested rfl, rfl, .inr rfl⟩

/-- The engine is told of a request only while this is the pending one. -/
theorem told_request (request : SessionRequest)
    (moved : Move state (.told (request.input .suspend)) after) (sound : state.Sound)
    (requested : request ≠ .none) : state.pending = request ∧
      (state.delivered.rank < state.pending.rank ∨ state.phase = .interrupted) := by
  obtain ⟨ready, -⟩ | ⟨pending, same, undelivered⟩ := moved.told_cases sound
  · -- What the engine is due is never a request.
    obtain ⟨notSuspend, notAbort⟩ := sound.ordinary ready
    cases request with
    | none => exact absurd rfl requested
    | suspend => exact absurd rfl notSuspend
    | abort => exact absurd rfl notAbort
  · exact ⟨(SessionRequest.eq_of_input_eq requested pending same).symm, undelivered⟩

/-- The engine is told a reply only if no request takes its place. -/
theorem ready_of_reply {reply : Message} (moved : Move state (.told (.reply reply)) after)
    (sound : state.Sound) : state.phase = .ready (.reply reply) := by
  obtain ⟨ready, -⟩ | ⟨pending, same, -⟩ := moved.told_cases sound
  · exact ready
  · cases request : state.pending with
    | none => exact absurd request pending
    | suspend =>
      rw [request] at same
      cases same
    | abort =>
      rw [request] at same
      cases same

/-- A session that was interrupted stays so until the engine is told. -/
theorem interrupted (moved : Move state event after) (untold : event.told? = none)
    (interrupted : state.phase = .interrupted) : after.phase = .interrupted := by
  cases moved with
  | ask _ => exact interrupted
  | interrupt => cases untold
  | callOff _ => rfl
  | stir _ => rfl
  | _ => cases interrupted

end Move

namespace Runs

theorem split_iff {before later : List SessionEvent} :
    Runs state (before ++ event :: later) after ↔
      ∃ between next, Runs state before between ∧ Move between event next ∧
        Runs next later after := by
  rw [append_iff]
  exact ⟨fun ⟨between, earlier, next, moved, runs⟩ => ⟨between, next, earlier, moved, runs⟩,
    fun ⟨between, next, earlier, moved, runs⟩ => ⟨between, earlier, next, moved, runs⟩⟩

theorem pending_le (runs : Runs state events after) :
    state.pending.rank ≤ after.pending.rank :=
  runs.keeps (fun moved earlier => Nat.le_trans earlier moved.pending_le) (Nat.le_refl _)

theorem delivered_le (runs : Runs state events after) (sound : state.Sound) :
    state.delivered.rank ≤ after.delivered.rank := by
  induction events generalizing state with
  | nil =>
    subst runs
    exact Nat.le_refl _
  | cons event rest inductionHypothesis =>
    obtain ⟨between, moved, runs⟩ := runs
    exact Nat.le_trans (moved.delivered_le sound) (inductionHypothesis runs (sound.move moved))

/-- What every move keeps that tells the engine nothing is kept while it is told nothing. -/
theorem keeps_untold {P : SessionState → Prop}
    (step : ∀ {state event after}, Move state event after → event.told? = none → P state → P after)
    (runs : Runs state events after) (untold : ∀ event ∈ events, event.told? = none)
    (holds : P state) : P after := by
  induction events generalizing state with
  | nil =>
    subst runs
    exact holds
  | cons event rest inductionHypothesis =>
    obtain ⟨between, moved, runs⟩ := runs
    obtain ⟨first, others⟩ := List.forall_mem_cons.1 untold
    exact inductionHypothesis runs others (step moved first holds)

theorem delivered_eq (runs : Runs state events after)
    (untold : ∀ event ∈ events, event.told? = none) : after.delivered = state.delivered :=
  runs.keeps_untold (P := fun other => other.delivered = state.delivered)
    (fun moved untold same => (moved.delivered_eq untold).trans same) untold rfl

theorem interrupted (runs : Runs state events after)
    (untold : ∀ event ∈ events, event.told? = none) (interrupted : state.phase = .interrupted) :
    after.phase = .interrupted :=
  runs.keeps_untold (P := fun other => other.phase = .interrupted) Move.interrupted untold
    interrupted

end Runs

/-! ## Requests to suspend -/

theorem two_le_count_told_iff {input : StepInput} :
    2 ≤ (events.filterMap SessionEvent.told?).count input ↔
      ∃ before later : List SessionEvent, events = before ++ SessionEvent.told input :: later ∧
        .told input ∈ before := by
  constructor
  · intro twice
    have pair := List.replicate_sublist_iff.2 twice
    obtain ⟨first, second, split, toldFirst, single⟩ := List.cons_sublist_iff.1 pair
    have toldSecond : input ∈ second := single.subset (List.mem_singleton_self input)
    obtain ⟨before, later, rfl, rfl, rfl⟩ := List.filterMap_eq_append_iff.1 split
    obtain ⟨_, toldBefore, told⟩ := List.mem_filterMap.1 toldFirst
    cases SessionEvent.told?_eq_some.1 told
    obtain ⟨_, toldLater, told⟩ := List.mem_filterMap.1 toldSecond
    cases SessionEvent.told?_eq_some.1 told
    -- The second time comes after the place where the list is cut, the first time before it.
    obtain ⟨between, rest, rfl⟩ := List.append_of_mem toldLater
    exact ⟨before ++ between, rest, (List.append_assoc ..).symm,
      List.mem_append_left _ toldBefore⟩
  · rintro ⟨before, later, rfl, toldBefore⟩
    have once : 0 < (before.filterMap SessionEvent.told?).count input :=
      List.count_pos_iff.2 (List.mem_filterMap.2 ⟨_, toldBefore, rfl⟩)
    simp only [List.filterMap_append, List.filterMap_cons, SessionEvent.told?, List.count_append,
      List.count_cons_self]
    omega

/-- The session refused a pause, and the engine was told nothing since. -/
def PauseRefused (events : List SessionEvent) : Prop :=
  ∃ earlier recent : List SessionEvent, events = earlier ++ SessionEvent.paused false :: recent ∧
    ∀ event ∈ recent, event.told? = none

/-- The engine, which was told to suspend before, is told something because the session refused a
pause, and what the session is asked to do is still to suspend. -/
def RefusesForKnownSuspend (events : List SessionEvent) : Prop :=
  ∃ (before : List SessionEvent) (input : StepInput) (later : List SessionEvent),
    events = before ++ SessionEvent.told input :: later ∧ PauseRefused before ∧
      .told .suspend ∈ before ∧ pendingAfter before = .suspend

theorem PauseRefused.concat (refused : PauseRefused events) (untold : event.told? = none) :
    PauseRefused (events ++ [event]) := by
  obtain ⟨earlier, recent, rfl, quiet⟩ := refused
  refine ⟨earlier, recent ++ [event], List.append_assoc .., ?_⟩
  exact List.forall_mem_append.2 ⟨quiet, List.forall_mem_singleton.2 untold⟩

namespace Runs

theorem interrupted_of_pauseRefused (runs : Runs {} events state) (refused : PauseRefused events) :
    state.phase = .interrupted := by
  obtain ⟨earlier, recent, rfl, untold⟩ := refused
  obtain ⟨faltering, interrupted, -, refuses, waits⟩ := split_iff.1 runs
  cases refuses
  exact waits.interrupted untold rfl

/-- A transfer is interrupted by a pause that is refused, or by a request that the engine does not
know. -/
theorem interrupted_cases (runs : Runs {} events state) : state.phase = .interrupted →
    PauseRefused events ∨ state.delivered.rank < state.pending.rank := by
  refine runs.along (P := fun events state => state.phase = .interrupted →
    PauseRefused events ∨ state.delivered.rank < state.pending.rank) ?_ (by simp)
  intro events event between after earlier moved inductionHypothesis interrupted
  cases moved with
  | ask further =>
    obtain refused | behind := inductionHypothesis interrupted
    · exact .inl (refused.concat rfl)
    · exact .inr (Nat.lt_trans behind further)
  | callOff undelivered =>
    exact .inr ((SessionState.Sound.start.runs earlier).behind undelivered)
  | stir _ => exact .inl ⟨events, [], rfl, List.forall_mem_nil _⟩
  | _ => cases interrupted

theorem delivered_pos (runs : Runs {} events state) (told : .told .suspend ∈ events) :
    0 < state.delivered.rank := by
  obtain ⟨before, later, rfl⟩ := List.append_of_mem told
  obtain ⟨telling, next, earlier, tells, runs⟩ := split_iff.1 runs
  have sound := SessionState.Sound.start.runs earlier
  have delivered : next.delivered = .suspend :=
    tells.after_told.1.trans (tells.told_request .suspend sound (by decide)).1
  have known : 0 < next.delivered.rank := by
    rw [delivered]
    exact Nat.one_pos
  exact Nat.lt_of_lt_of_le known (runs.delivered_le (sound.move tells))

/-- The engine is told to suspend a second time only because of a pause that is refused for the
request that it knows. -/
theorem told_suspend_twice_iff (runs : Runs {} events state) :
    2 ≤ (events.filterMap SessionEvent.told?).count .suspend ↔ RefusesForKnownSuspend events := by
  rw [two_le_count_told_iff]
  constructor
  · rintro ⟨before, later, rfl, toldBefore⟩
    obtain ⟨telling, next, earlier, tells, -⟩ := split_iff.1 runs
    obtain ⟨pending, undelivered⟩ := tells.told_request .suspend
      (SessionState.Sound.start.runs earlier) (by decide)
    -- The engine knows of the request, so that no new one came while a message was transferred.
    have known : ¬ telling.delivered.rank < telling.pending.rank := by
      rw [pending]
      exact Nat.not_lt.2 (earlier.delivered_pos toldBefore)
    have refused := (earlier.interrupted_cases (undelivered.resolve_left known)).resolve_right known
    exact ⟨before, .suspend, later, rfl, refused, toldBefore, earlier.pending_eq.symm.trans pending⟩
  · rintro ⟨before, input, later, rfl, refused, toldBefore, pending⟩
    obtain ⟨telling, next, earlier, tells, -⟩ := split_iff.1 runs
    obtain ⟨ready, -⟩ | ⟨-, told, -⟩ := tells.told_cases (SessionState.Sound.start.runs earlier)
    · rw [earlier.interrupted_of_pauseRefused refused] at ready
      cases ready
    · rw [earlier.pending_eq, pending] at told
      subst told
      exact ⟨before, later, rfl, toldBefore⟩

end Runs

/-! ## After an abort -/

/-- How a session ends after the engine was told to abort, by what the engine says then. -/
def endingAfterAbort : Except SyncError StepCommand → Except SyncError SessionEnd
  | .error e => .error e
  | .ok (.finish ending) => .ok ending
  | .ok (.send _ _) => .ok .aborted

/-- The engine that was told to abort gives an answer, and this ends the session. -/
theorem Move.after_abort (moved : Move state event after) (aborted : state.delivered = .abort)
    (working : state.phase = .working) :
    (∃ request, event = .asked request ∧ after.delivered = .abort ∧ after.phase = .working) ∨
      ∃ answer, event = .answered answer ∧ after.phase = .ended (endingAfterAbort answer) := by
  cases moved with
  | ask _ => exact .inl ⟨_, rfl, aborted, working⟩
  | fail => exact .inr ⟨_, rfl, rfl⟩
  | finish => exact .inr ⟨_, rfl, rfl⟩
  | stop => exact .inr ⟨_, rfl, rfl⟩
  | send goesOn => exact absurd aborted goesOn
  | _ => cases working

namespace Runs

/-- When a session is over, nothing happens in it but requests. -/
theorem asked_of_ended {ending : Except SyncError SessionEnd} (runs : Runs state events after)
    (ended : state.phase = .ended ending) :
    (∀ event ∈ events, ∃ request, event = .asked request) ∧ after.phase = .ended ending := by
  induction events generalizing state with
  | nil =>
    subst runs
    exact ⟨List.forall_mem_nil _, ended⟩
  | cons event rest inductionHypothesis =>
    obtain ⟨between, moved, runs⟩ := runs
    cases moved with
    | ask _ =>
      obtain ⟨others, final⟩ := inductionHypothesis runs ended
      exact ⟨List.forall_mem_cons.2 ⟨⟨_, rfl⟩, others⟩, final⟩
    | _ => cases ended

/-- After the engine was told to abort, all that is left is its answer, which ends the session. -/
theorem after_abort (runs : Runs state events after) (aborted : state.delivered = .abort)
    (working : state.phase = .working) (rests : after.phase ≠ .working) :
    (∀ event ∈ events, event.told? = none ∧ event.isSending = false) ∧
      ∃ answer, events.filterMap SessionEvent.answered? = [answer] ∧
        after.phase = .ended (endingAfterAbort answer) := by
  induction events generalizing state with
  | nil =>
    subst runs
    exact absurd working rests
  | cons event rest inductionHypothesis =>
    obtain ⟨between, moved, runs⟩ := runs
    obtain ⟨request, rfl, aborted, working⟩ | ⟨answer, rfl, ended⟩ :=
      moved.after_abort aborted working
    · obtain ⟨others, answer, answered, final⟩ := inductionHypothesis runs aborted working
      exact ⟨List.forall_mem_cons.2 ⟨⟨rfl, rfl⟩, others⟩, answer, answered, final⟩
    · obtain ⟨asked, final⟩ := runs.asked_of_ended ended
      refine ⟨List.forall_mem_cons.2 ⟨⟨rfl, rfl⟩, fun event there => ?_⟩, answer, ?_, final⟩
      · obtain ⟨request, rfl⟩ := asked event there
        exact ⟨rfl, rfl⟩
      · have unanswered : rest.filterMap SessionEvent.answered? = [] := by
          refine List.filterMap_eq_nil_iff.2 fun event there => ?_
          obtain ⟨request, rfl⟩ := asked event there
          rfl
        simp [SessionEvent.answered?, unanswered]

end Runs

/-! ## Sessions -/

namespace Synchronizer

variable {α β ν χ υ : Type} [Agent α] [Backend β] [PropertyNode ν]
  [Surroundings α (Happening β ν)] [Engine χ (Happening β ν)]

/-- After a session was asked to do something, whenever this happens, the next thing that the engine
is told is what the session is asked to do then. -/
theorem told_pending_request {horizon : Nat} {password : String} {setting : Setting α β ν χ υ}
    {before between later : List SessionEvent} {request : SessionRequest} {input : StepInput}
    (happened : history horizon password setting =
      before ++ SessionEvent.asked request :: (between ++ SessionEvent.told input :: later))
    (untold : ∀ event ∈ between, event.told? = none) :
    pendingAfter (before ++ SessionEvent.asked request :: between) = .suspend ∧
        input = .suspend ∨
      pendingAfter (before ++ SessionEvent.asked request :: between) = .abort ∧
        input = .abort := by
  obtain ⟨state, runs⟩ := runs_history horizon password setting
  rw [happened] at runs
  obtain ⟨asking, asked, earlier, asks, runs⟩ := Runs.split_iff.1 runs
  obtain ⟨telling, told, waits, tells, -⟩ := Runs.split_iff.1 runs
  -- From the request on the engine knows less than what is pending.
  have behind : asked.delivered.rank < asked.pending.rank := by
    have known := (SessionState.Sound.start.runs earlier).known
    cases asks with
    | ask further => exact Nat.lt_of_le_of_lt known further
  have stillBehind : telling.delivered.rank < telling.pending.rank := by
    rw [waits.delivered_eq untold]
    exact Nat.lt_of_lt_of_le behind waits.pending_le
  have pending :
      telling.pending = pendingAfter (before ++ SessionEvent.asked request :: between) :=
    Runs.pending_eq (Runs.split_iff.2 ⟨asking, asked, earlier, asks, waits⟩)
  have sound := (SessionState.Sound.start.runs earlier).move asks |>.runs waits
  obtain ⟨-, known⟩ | ⟨requested, inputs, -⟩ := tells.told_cases sound
  · rw [known] at stillBehind
    exact absurd stillBehind (Nat.lt_irrefl _)
  rw [← pending]
  cases request : telling.pending with
  | none => exact absurd request requested
  | suspend =>
    rw [request] at inputs
    exact .inl ⟨rfl, inputs⟩
  | abort =>
    rw [request] at inputs
    exact .inr ⟨rfl, inputs⟩

/-- A session of a scripted agent and a planned engine, without any source. -/
def rehearsed (script : List (BareSettlement StageHappening))
    (engine : PlannedEngine StageHappening) :
    Setting (BareAgent StageHappening) ScriptedBackend MemoryNode (PlannedEngine StageHappening)
      Observer where
  synchronizer := { config := { name := "work" } }
  registry := {}
  person := {}
  sources := []
  engine
  agent := { script }

/-- A message of one octet. -/
def shortMessage (octet : UInt8) : Message :=
  ⟨[octet], ContentType.xml⟩

/-- A session to which something happens before the reply to its message arrives.  Even after an
abort its engine wants to send one more message. -/
def answeredAmid (happening : StageHappening) :
    Setting (BareAgent StageHappening) ScriptedBackend MemoryNode (PlannedEngine StageHappening)
      Observer :=
  rehearsed [{ status := .gotReply, reply := some (shortMessage 2), happenings := [happening] }]
    { steps := [{ command := .ok (.send (shortMessage 1) true) }]
      onAbort := .ok (.send (shortMessage 3) true) }

theorem told_suspend_before_reply :
    ∃ (before between later : List SessionEvent) (input : StepInput),
      history 2 "" (answeredAmid .suspend) =
          before ++ SessionEvent.asked .suspend :: (between ++ SessionEvent.told input :: later) ∧
        .settled .gotReply (.ok (shortMessage 2)) none ∈ between ∧ input = .suspend := by
  have happened : history 2 "" (answeredAmid .suspend) =
      [SessionEvent.told .start, .answered (.ok (.send (shortMessage 1) true)),
          .accepted (shortMessage 1)] ++
        SessionEvent.asked .suspend ::
          ([SessionEvent.settled .gotReply (.ok (shortMessage 2)) none] ++
            SessionEvent.told .suspend :: [.answered (.ok (.finish .suspended))]) := by
    decide +kernel
  have untold : ∀ event ∈ [SessionEvent.settled .gotReply (.ok (shortMessage 2)) none],
      event.told? = none := List.forall_mem_singleton.2 rfl
  obtain ⟨-, told⟩ | ⟨pending, -⟩ := told_pending_request happened untold
  · exact ⟨_, _, _, _, happened, List.mem_singleton_self _, told⟩
  · cases pending

/-! ## How often requests are told -/

/-- What the engine is told in a session. -/
def inputs (horizon : Nat) (password : String) (setting : Setting α β ν χ υ) : List StepInput :=
  (history horizon password setting).filterMap SessionEvent.told?

theorem rest_after_abort {horizon : Nat} {password : String} {setting : Setting α β ν χ υ}
    {before later : List SessionEvent}
    (happened : history horizon password setting =
      before ++ SessionEvent.told .abort :: later) :
    (∀ event ∈ later, event.told? = none ∧ event.isSending = false) ∧
      ∃ answer, later.filterMap SessionEvent.answered? = [answer] ∧
        (proceed horizon password setting).1 = some (endingAfterAbort answer) := by
  obtain ⟨delivered, phase, stands, ended, rests⟩ := standsAt_proceed horizon password setting
  have runs : Runs {} (history horizon password setting) _ := stands
  have ended := ended (by simp [happened])
  rw [happened] at runs
  -- The engine was told the pending request, which counts as delivered from then on.
  obtain ⟨telling, told, earlier, tells, runs⟩ := Runs.split_iff.1 runs
  obtain ⟨delivered, working⟩ := tells.after_told
  obtain ⟨aborted, -⟩ := tells.told_request .abort
    (SessionState.Sound.start.runs earlier) (by decide)
  obtain ⟨quiet, answer, answered, final⟩ :=
    runs.after_abort (delivered.trans aborted) working rests
  exact ⟨quiet, answer, answered, ended.trans (congrArg SessionPhase.ending? final)⟩

/-- An abort is told at most once, and no suspend after it.  A suspend is told at most once unless
the session refuses a pause because of a suspend that was told before. -/
theorem requests_told_once_iff (horizon : Nat) (password : String) (setting : Setting α β ν χ υ) :
    (inputs horizon password setting).count .abort ≤ 1 ∧
      (∀ before later : List StepInput,
        inputs horizon password setting = before ++ StepInput.abort :: later → .suspend ∉ later) ∧
      ((inputs horizon password setting).count .suspend ≤ 1 ↔
        ¬ RefusesForKnownSuspend (history horizon password setting)) := by
  refine ⟨?_, ?_, ?_⟩
  · -- A second abort would be told after the first one.
    by_contra often
    obtain ⟨before, later, happened, told⟩ := two_le_count_told_iff.1 (Nat.lt_of_not_le often)
    obtain ⟨first, rest, rfl⟩ := List.append_of_mem told
    rw [List.append_assoc, List.cons_append] at happened
    have untold := ((rest_after_abort happened).1 (.told .abort) (by simp)).1
    cases untold
  · intro before later told suspends
    obtain ⟨first, rest, happened, -, told⟩ := List.filterMap_eq_append_iff.1 told
    obtain ⟨between, event, last, rfl, -, abort, rfl⟩ := List.filterMap_eq_cons_iff.1 told
    cases SessionEvent.told?_eq_some.1 abort
    rw [← List.append_assoc] at happened
    obtain ⟨event, there, suspend⟩ := List.mem_filterMap.1 suspends
    cases suspend.symm.trans ((rest_after_abort happened).1 event there).1
  · obtain ⟨state, runs⟩ := runs_history horizon password setting
    rw [← runs.told_suspend_twice_iff, Nat.not_le]
    exact Nat.lt_succ_iff.symm

/-- A session that is asked to suspend before its message is sent.  Its engine wants to send another
message then, whose first transfer fails. -/
def failingAfterSuspend :
    Setting (BareAgent StageHappening) ScriptedBackend MemoryNode (PlannedEngine StageHappening)
      Observer :=
  rehearsed [{ status := .failed }, { status := .gotReply, reply := some (shortMessage 3) }]
    { steps := [{
        acts := [.happening .suspend]
        command := .ok (.send (shortMessage 1) true) }]
      onSuspend := .ok (.send (shortMessage 2) true) }

/-- The pause after the failure is refused, and the engine is told to suspend once more. -/
theorem suspend_told_twice : ¬ (inputs 3 "" failingAfterSuspend).count .suspend ≤ 1 := by
  have told : inputs 3 "" failingAfterSuspend = [.start, .suspend, .suspend] := by
    decide +kernel
  rw [told]
  decide

/-! ## After an abort -/

/-- After the engine was told to abort nothing is sent and nothing is told.  The session ends as the
engine says in its one answer to the abort, or as aborted if the engine wants to send. -/
theorem nothing_sent_after_abort {horizon : Nat} {password : String} {setting : Setting α β ν χ υ}
    {before later : List SessionEvent}
    (happened : history horizon password setting =
      before ++ SessionEvent.told .abort :: later) :
    (∀ event ∈ later, event.told? = none ∧ event.isSending = false) ∧
      ∃ answer engine session, later.filterMap SessionEvent.answered? = [answer] ∧
        exchange horizon password setting = some (endingAfterAbort answer, engine, session) := by
  obtain ⟨quiet, answer, answered, ended⟩ := rest_after_abort happened
  exact ⟨quiet, answer, _, _, answered, exchange_eq_some_iff.2 (Prod.ext ended rfl)⟩

theorem message_withheld_after_abort :
    ∃ (before later : List SessionEvent) (engine : PlannedEngine StageHappening)
        (session : Session (BareAgent StageHappening) ScriptedBackend MemoryNode),
      history 2 "" (answeredAmid .abort) = before ++ SessionEvent.told .abort :: later ∧
        (∀ event ∈ later, event.isSending = false) ∧
        exchange 2 "" (answeredAmid .abort) = some (.ok .aborted, engine, session) := by
  have happened : history 2 "" (answeredAmid .abort) =
      [SessionEvent.told .start, .answered (.ok (.send (shortMessage 1) true)),
          .accepted (shortMessage 1), .asked .abort,
          .settled .gotReply (.ok (shortMessage 2)) none] ++
        SessionEvent.told .abort :: [.answered (.ok (.send (shortMessage 3) true))] := by
    decide +kernel
  obtain ⟨quiet, answer, engine, session, answered, exchanged⟩ := nothing_sent_after_abort happened
  cases answered
  exact ⟨_, _, engine, session, happened, fun event there => (quiet event there).2, exchanged⟩

end Synchronizer

end DataSync
