import DataSync.Proofs.Session.History
import Mathlib.Data.List.Induction

/-!
# The course of a session

Which event may follow which one in a session.  The next event depends on what the session is asked
to do, on what of that was delivered to the engine, and on how far the exchange of messages is.  A
run is a list of events that follow one another in this way.  Nothing here looks at an engine, an
agent or a source: whatever follows from a run follows for all of them.
-/

namespace DataSync

deriving instance DecidableEq for SessionEvent

/-! ## Requests -/

/-- How far a request goes: a session that is asked to do something is later asked for more only. -/
def SessionRequest.rank : SessionRequest → Nat
  | none => 0
  | suspend => 1
  | abort => 2

namespace SessionRequest

theorem eq_of_rank_eq {request other : SessionRequest} (same : request.rank = other.rank) :
    request = other := by
  cases request <;> cases other <;> simp_all [rank]

theorem ne_none_of_rank_lt {request other : SessionRequest} (more : request.rank < other.rank) :
    other ≠ none := by
  rintro rfl
  exact Nat.not_lt_zero _ more

/-- What the engine would have been told does not matter once there is a request. -/
theorem input_congr {request : SessionRequest} (requested : request ≠ none)
    (input other : StepInput) : request.input input = request.input other := by
  cases request with
  | none => exact absurd rfl requested
  | suspend => rfl
  | abort => rfl

/-- Different requests are told differently. -/
theorem eq_of_input_eq {request other : SessionRequest} (requested : request ≠ none)
    (otherRequested : other ≠ none) {input : StepInput}
    (same : request.input input = other.input input) : request = other := by
  cases request <;> cases other <;> simp_all [SessionRequest.input]

end SessionRequest

/-! ## States and moves -/

/-- How far the exchange of messages is. -/
inductive SessionPhase where
  /-- The engine is told this next, unless there is a request. -/
  | ready (input : StepInput)
  /-- The engine is told next what the session is asked to do. -/
  | interrupted
  | working
  | sending (message : Message) (expectsReply : Bool)
  | carrying (message : Message) (expectsReply : Bool)
  /-- The transfer failed, but the message may be sent again. -/
  | faltering (message : Message) (expectsReply : Bool)
  | ended (ending : Except SyncError SessionEnd)

/-- How the session ended, if it did. -/
def SessionPhase.ending? : SessionPhase → Option (Except SyncError SessionEnd)
  | ended ending => some ending
  | _ => none

/-- What decides which event may come next. -/
structure SessionState where
  pending : SessionRequest := .none
  delivered : SessionRequest := .none
  phase : SessionPhase := .ready .start

/-- The status of a transfer, with the error of the agent, after which the message may be sent
again. -/
def MayPass (status : TransportStatus) (error : Option TransportError) : Prop :=
  status = .timeOut ∨ status = .failed ∧ ∀ e, error = some e → e.isRetryable = true

/-- An event leads from one state of a session to another one. -/
inductive Move : SessionState → SessionEvent → SessionState → Prop where
  | ask {pending request delivered phase} (more : pending.rank < request.rank) :
      Move ⟨pending, delivered, phase⟩ (.asked request) ⟨request, delivered, phase⟩
  | proceed {delivered input} :
      Move ⟨delivered, delivered, .ready input⟩ (.told input) ⟨delivered, delivered, .working⟩
  | preempt {pending delivered input} (undelivered : pending ≠ delivered) :
      Move ⟨pending, delivered, .ready input⟩ (.told (pending.input input))
        ⟨pending, pending, .working⟩
  | interrupt {pending delivered} :
      Move ⟨pending, delivered, .interrupted⟩ (.told (pending.input .suspend))
        ⟨pending, pending, .working⟩
  | fail {pending delivered e} :
      Move ⟨pending, delivered, .working⟩ (.answered (.error e))
        ⟨pending, delivered, .ended (.error e)⟩
  | finish {pending delivered ending} :
      Move ⟨pending, delivered, .working⟩ (.answered (.ok (.finish ending)))
        ⟨pending, delivered, .ended (.ok ending)⟩
  | stop {pending message expectsReply} :
      Move ⟨pending, .abort, .working⟩ (.answered (.ok (.send message expectsReply)))
        ⟨pending, .abort, .ended (.ok .aborted)⟩
  | send {pending delivered message expectsReply} (goesOn : delivered ≠ .abort) :
      Move ⟨pending, delivered, .working⟩ (.answered (.ok (.send message expectsReply)))
        ⟨pending, delivered, .sending message expectsReply⟩
  | refuse {pending delivered message expectsReply e} :
      Move ⟨pending, delivered, .sending message expectsReply⟩ (.refused e)
        ⟨pending, delivered, .ended (.error (.ofTransport e))⟩
  | accept {pending delivered message expectsReply} :
      Move ⟨pending, delivered, .sending message expectsReply⟩ (.accepted message)
        ⟨pending, delivered, .carrying message expectsReply⟩
  | reply {pending delivered message expectsReply reply error} :
      Move ⟨pending, delivered, .carrying message expectsReply⟩
        (.settled .gotReply (.ok reply) error) ⟨pending, delivered, .ready (.reply reply)⟩
  | deliver {pending delivered message reply error} :
      Move ⟨pending, delivered, .carrying message false⟩ (.settled .inactive reply error)
        ⟨pending, delivered, .ready .sent⟩
  | callOff {pending delivered message expectsReply reply error}
      (undelivered : pending ≠ delivered) :
      Move ⟨pending, delivered, .carrying message expectsReply⟩ (.settled .canceled reply error)
        ⟨pending, delivered, .interrupted⟩
  | falter {pending delivered message expectsReply status reply error}
      (mayPass : MayPass status error) :
      Move ⟨pending, delivered, .carrying message expectsReply⟩ (.settled status reply error)
        ⟨pending, delivered, .faltering message expectsReply⟩
  | lose {pending delivered message expectsReply status reply error e} :
      Move ⟨pending, delivered, .carrying message expectsReply⟩ (.settled status reply error)
        ⟨pending, delivered, .ended (.error e)⟩
  | giveUp {pending delivered message expectsReply e} :
      Move ⟨pending, delivered, .faltering message expectsReply⟩ (.gaveUp e)
        ⟨pending, delivered, .ended (.error e)⟩
  | pause {delivered message expectsReply} :
      Move ⟨.none, delivered, .faltering message expectsReply⟩ (.paused true)
        ⟨.none, delivered, .sending message expectsReply⟩
  | stir {pending delivered message expectsReply} (requested : pending ≠ .none) :
      Move ⟨pending, delivered, .faltering message expectsReply⟩ (.paused false)
        ⟨pending, delivered, .interrupted⟩

/-- The events lead from one state to another one. -/
def Runs : SessionState → List SessionEvent → SessionState → Prop
  | state, [], after => state = after
  | state, event :: rest, after => ∃ between, Move state event between ∧ Runs between rest after

namespace Runs

variable {state after : SessionState} {event : SessionEvent} {events later : List SessionEvent}

theorem append_iff : Runs state (events ++ later) after ↔
    ∃ between, Runs state events between ∧ Runs between later after := by
  induction events generalizing state with
  | nil => exact ⟨fun runs => ⟨state, rfl, runs⟩, fun ⟨_, same, runs⟩ => same ▸ runs⟩
  | cons event rest inductionHypothesis =>
    constructor
    · rintro ⟨next, moved, runs⟩
      obtain ⟨between, first, second⟩ := inductionHypothesis.1 runs
      exact ⟨between, ⟨next, moved, first⟩, second⟩
    · rintro ⟨between, ⟨next, moved, first⟩, second⟩
      exact ⟨next, moved, inductionHypothesis.2 ⟨between, first, second⟩⟩

theorem concat_iff : Runs state (events ++ [event]) after ↔
    ∃ between, Runs state events between ∧ Move between event after := by
  rw [append_iff]
  constructor
  · rintro ⟨between, runs, final, moved, rfl⟩
    exact ⟨between, runs, moved⟩
  · rintro ⟨between, runs, moved⟩
    exact ⟨between, runs, after, moved, rfl⟩

/-- What holds at the beginning of a run and is kept by every further event holds at its end. -/
theorem along {P : List SessionEvent → SessionState → Prop}
    (step : ∀ {events event between after}, Runs state events between → Move between event after →
      P events between → P (events ++ [event]) after)
    (runs : Runs state events after) (holds : P [] state) : P events after := by
  induction events using List.reverseRecOn generalizing after with
  | nil =>
    subst runs
    exact holds
  | append_singleton events event inductionHypothesis =>
    obtain ⟨between, earlier, moved⟩ := concat_iff.1 runs
    exact step earlier moved (inductionHypothesis earlier)

/-- What every move keeps is kept by runs. -/
theorem keeps {P : SessionState → Prop}
    (step : ∀ {state event after}, Move state event after → P state → P after)
    (runs : Runs state events after) (holds : P state) : P after :=
  runs.along (P := fun _ => P) (fun _ moved => step moved) holds

end Runs

/-! ## Reachable states -/

/-- What the pending and the delivered request can be in a phase.  Only a request interrupts, what
the engine is due is no request, and after an abort was delivered nothing is transferred. -/
def SessionPhase.Suits (pending delivered : SessionRequest) : SessionPhase → Prop
  | ready input => input ≠ .suspend ∧ input ≠ .abort ∧ delivered ≠ .abort
  | interrupted => pending ≠ .none ∧ delivered ≠ .abort
  | working | ended _ => True
  | sending _ _ | carrying _ _ | faltering _ _ => delivered ≠ .abort

/-- A state that a session can be in.  The engine knows of no request that did not come. -/
structure SessionState.Sound (state : SessionState) : Prop where
  known : state.delivered.rank ≤ state.pending.rank
  suits : state.phase.Suits state.pending state.delivered

namespace SessionState.Sound

variable {state after : SessionState} {event : SessionEvent}

theorem start : Sound {} where
  known := Nat.le_refl _
  suits := by simp [SessionPhase.Suits]

/-- A request that the engine does not know goes further than the one that it knows. -/
theorem behind (sound : state.Sound) (undelivered : state.pending ≠ state.delivered) :
    state.delivered.rank < state.pending.rank := by
  refine Nat.lt_of_le_of_ne sound.known fun same => undelivered ?_
  exact SessionRequest.eq_of_rank_eq same.symm

theorem requested (sound : state.Sound) (interrupted : state.phase = .interrupted) :
    state.pending ≠ .none := by
  have suits := sound.suits
  rw [interrupted] at suits
  exact suits.1

theorem ordinary {input : StepInput} (sound : state.Sound) (ready : state.phase = .ready input) :
    input ≠ .suspend ∧ input ≠ .abort := by
  have suits := sound.suits
  rw [ready] at suits
  exact ⟨suits.1, suits.2.1⟩

theorem move (moved : Move state event after) (sound : state.Sound) : after.Sound := by
  obtain ⟨known, suits⟩ := id sound
  cases moved with
  | @ask pending request delivered phase more =>
    refine ⟨Nat.le_trans known (Nat.le_of_lt more), ?_⟩
    cases phase with
    | interrupted => exact ⟨SessionRequest.ne_none_of_rank_lt more, suits.2⟩
    | _ => exact suits
  -- Whatever the engine was told and says, what is pending and delivered then is in order.
  | proceed => exact ⟨known, trivial⟩
  | preempt _ => exact ⟨Nat.le_refl _, trivial⟩
  | interrupt => exact ⟨Nat.le_refl _, trivial⟩
  | fail => exact ⟨known, trivial⟩
  | finish => exact ⟨known, trivial⟩
  | stop => exact ⟨known, trivial⟩
  | send goesOn => exact ⟨known, goesOn⟩
  -- Nothing is told during a transfer, which therefore ends with the request with which it began.
  | refuse => exact ⟨known, trivial⟩
  | accept => exact ⟨known, suits⟩
  | reply => exact ⟨known, by simp, by simp, suits⟩
  | deliver => exact ⟨known, by simp, by simp, suits⟩
  | callOff undelivered =>
    exact ⟨known, SessionRequest.ne_none_of_rank_lt (sound.behind undelivered), suits⟩
  | falter _ => exact ⟨known, suits⟩
  | lose => exact ⟨known, trivial⟩
  | giveUp => exact ⟨known, trivial⟩
  | pause => exact ⟨known, suits⟩
  | stir disturbed => exact ⟨known, disturbed, suits⟩

theorem runs {events : List SessionEvent} (sound : state.Sound) (runs : Runs state events after) :
    after.Sound :=
  runs.keeps move sound

end SessionState.Sound

/-- The request that a session was asked for last. -/
def pendingAfter (events : List SessionEvent) : SessionRequest :=
  ((events.filterMap SessionEvent.asked?).getLast?).getD .none

theorem pendingAfter_concat (events : List SessionEvent) (event : SessionEvent) :
    pendingAfter (events ++ [event]) = event.asked?.getD (pendingAfter events) := by
  unfold pendingAfter
  rw [List.filterMap_append]
  cases asked : event.asked? with
  | none => simp [asked]
  | some request => simp [asked]

theorem Move.pending_eq {state after : SessionState} {event : SessionEvent}
    (moved : Move state event after) : after.pending = event.asked?.getD state.pending := by
  cases moved <;> rfl

/-- What is pending after a run is what was asked for last in it. -/
theorem Runs.pending_eq {state : SessionState} {events : List SessionEvent}
    (runs : Runs {} events state) : state.pending = pendingAfter events := by
  refine runs.along (P := fun events state => state.pending = pendingAfter events) ?_ rfl
  intro events event between after earlier moved same
  rw [moved.pending_eq, same, pendingAfter_concat]

end DataSync
