import DataSync.Proofs.Session.Requests

/-!
# Repeated messages

The agent takes the messages that the engine wants to send, one after the other, and each of them a
number of times in a row.  A message is taken again right after its transfer failed in a way that
may pass.  The reply that the engine is told is the reply to the last sending of the message that it
wanted to send last.
-/

namespace DataSync

variable {state after : SessionState} {event : SessionEvent} {events : List SessionEvent}
  {phase : SessionPhase} {message : Message}

/-- What a session does, without what it is asked to do, which may come between any two events. -/
def doings (events : List SessionEvent) : List SessionEvent :=
  events.filter (·.asked?.isNone)

theorem doings_asked (events : List SessionEvent) (request : SessionRequest) :
    doings (events ++ [.asked request]) = doings events := by
  simp [doings, SessionEvent.asked?]

theorem doings_concat (done : event.asked? = none) :
    doings (events ++ [event]) = doings events ++ [event] := by
  simp [doings, done]

/-- The message that the engine wanted to send last. -/
def lastWanted (events : List SessionEvent) : Option Message :=
  (events.filterMap SessionEvent.wanted?).getLast?

theorem lastWanted_concat (events : List SessionEvent) (event : SessionEvent) :
    lastWanted (events ++ [event]) = event.wanted?.or (lastWanted events) := by
  unfold lastWanted
  rw [List.filterMap_append, List.getLast?_append]
  cases wanted : event.wanted? with
  | none => simp [wanted]
  | some message => simp [wanted]

/-- The messages that the agent takes belong to the messages that the engine wants to send, and the
replies to the messages that the agent takes. -/
structure WellSequenced (events : List SessionEvent) : Prop where
  /-- What the engine wants to send is taken in this order, each message a number of times.  Only
  the last one may not be taken at all. -/
  sendings : ∃ sendings : List (Message × Nat),
    sendings.map Prod.fst = events.filterMap SessionEvent.wanted? ∧
    (sendings.flatMap fun sending => List.replicate sending.2 sending.1) =
      events.filterMap SessionEvent.accepted? ∧
    ∀ sending ∈ sendings.dropLast, 0 < sending.2
  /-- A message that is taken before the engine wants to send another one is the one that was taken
  before.  Nothing is done in between but that its transfer failed in a way that may pass, and that
  the session paused. -/
  repetitions : ∀ (before between later : List SessionEvent) (message again : Message),
    events = before ++ SessionEvent.accepted message ::
      (between ++ SessionEvent.accepted again :: later) →
    (∀ event ∈ between, event.wanted? = none ∧ event.accepted? = none) →
    again = message ∧ ∃ status reply error, MayPass status error ∧
      doings between = [.settled status reply error, .paused true]
  /-- A reply that the engine is told settled, right before, the last transfer of the message that
  the engine wanted to send last. -/
  replies : ∀ (before later : List SessionEvent) (reply : Message),
    events = before ++ SessionEvent.told (.reply reply) :: later →
    ∃ (earlier : List SessionEvent) (message : Message) (error : Option TransportError),
      lastWanted before = some message ∧
      doings before =
        earlier ++ [SessionEvent.accepted message, .settled .gotReply (.ok reply) error]

/-! ## The message under way -/

/-- What the events were that led to a phase of a session. -/
def Recalls (events : List SessionEvent) : SessionPhase → Prop
  | .sending message _ => lastWanted events = some message
  | .carrying message _ =>
    lastWanted events = some message ∧
      ∃ earlier : List SessionEvent, doings events = earlier ++ [SessionEvent.accepted message]
  | .faltering message _ => lastWanted events = some message
  | .ready (.reply reply) =>
    ∃ (earlier : List SessionEvent) (message : Message) (error : Option TransportError),
      lastWanted events = some message ∧
      doings events =
        earlier ++ [SessionEvent.accepted message, .settled .gotReply (.ok reply) error]
  | _ => True

theorem recalls_asked (request : SessionRequest) (recalls : Recalls events phase) :
    Recalls (events ++ [.asked request]) phase := by
  unfold Recalls
  rw [doings_asked, lastWanted_concat]
  exact recalls

theorem Recalls.move (moved : Move state event after) (recalls : Recalls events state.phase) :
    Recalls (events ++ [event]) after.phase := by
  cases moved with
  | ask _ => exact recalls_asked _ recalls
  | send _ => exact lastWanted_concat ..
  | accept =>
    refine ⟨?_, doings events, doings_concat rfl⟩
    rw [lastWanted_concat]
    exact recalls
  | @reply _ _ message _ reply error =>
    obtain ⟨wanted, earlier, done⟩ := recalls
    refine ⟨earlier, message, error, ?_, ?_⟩
    · rw [lastWanted_concat]
      exact wanted
    · rw [doings_concat rfl, done, List.append_assoc]
      rfl
  | falter _ =>
    show lastWanted (events ++ [_]) = _
    rw [lastWanted_concat]
    exact recalls.1
  | pause =>
    show lastWanted (events ++ [_]) = _
    rw [lastWanted_concat]
    exact recalls
  | _ => trivial

theorem Runs.recalls (runs : Runs {} events state) : Recalls events state.phase :=
  runs.along (P := fun events state => Recalls events state.phase)
    (fun _ moved recalls => recalls.move moved) trivial

/-! ## Sendings -/

/-- Whether the agent took the message that the engine wanted to send last. -/
def SessionPhase.hasTaken : SessionPhase → Bool
  | sending _ _ | ended _ => false
  | _ => true

/-- How often the agent took each message that the engine wanted to send. -/
structure Tallied (events : List SessionEvent) (phase : SessionPhase)
    (sendings : List (Message × Nat)) : Prop where
  wanted : sendings.map Prod.fst = events.filterMap SessionEvent.wanted?
  accepted : (sendings.flatMap fun sending => List.replicate sending.2 sending.1) =
    events.filterMap SessionEvent.accepted?
  earlier : ∀ sending ∈ sendings.dropLast, 0 < sending.2
  latest : phase.hasTaken = true → ∀ sending ∈ sendings, 0 < sending.2

namespace Tallied

variable {sendings : List (Message × Nat)} {phase' : SessionPhase}

theorem skip (tallied : Tallied events phase sendings) (unwanted : event.wanted? = none)
    (unaccepted : event.accepted? = none)
    (taken : phase'.hasTaken = true → phase.hasTaken = true) :
    Tallied (events ++ [event]) phase' sendings where
  wanted := by simp [tallied.wanted, unwanted]
  accepted := by simp [tallied.accepted, unaccepted]
  earlier := tallied.earlier
  latest takes := tallied.latest (taken takes)

/-- The engine wants to send one more message. -/
theorem want (tallied : Tallied events phase sendings) (expectsReply : Bool)
    (taken : phase.hasTaken = true) (owes : phase'.hasTaken = false) :
    Tallied (events ++ [.answered (.ok (.send message expectsReply))]) phase'
      (sendings ++ [(message, 0)]) where
  wanted := by simp [tallied.wanted, SessionEvent.wanted?]
  accepted := by simp [tallied.accepted, SessionEvent.accepted?]
  earlier := by
    rw [List.dropLast_concat]
    exact tallied.latest taken
  latest takes := by
    rw [owes] at takes
    cases takes

/-- The agent takes the message that the engine wanted to send last, for the first time or again. -/
theorem accept (tallied : Tallied events phase sendings)
    (recent : lastWanted events = some message) :
    ∃ sendings', Tallied (events ++ [.accepted message]) phase' sendings' := by
  obtain ⟨wanted, accepted, earlier, -⟩ := tallied
  rw [lastWanted, ← wanted, List.getLast?_map, Option.map_eq_some_iff] at recent
  obtain ⟨⟨message, times⟩, last, rfl⟩ := recent
  obtain ⟨others, rfl⟩ := List.getLast?_eq_some_iff.1 last
  rw [List.dropLast_concat] at earlier
  refine ⟨others ++ [(message, times + 1)], ?_, ?_, ?_, fun _ => ?_⟩
  · simpa [List.filterMap_cons, SessionEvent.wanted?] using wanted
  · have repeated := congrArg (· ++ [message]) accepted
    simpa [SessionEvent.accepted?, List.replicate_succ'] using repeated
  · rw [List.dropLast_concat]
    exact earlier
  · exact List.forall_mem_append.2 ⟨earlier, List.forall_mem_singleton.2 (Nat.succ_pos times)⟩

theorem move (moved : Move state event after) (recalls : Recalls events state.phase)
    (tallied : Tallied events state.phase sendings) :
    ∃ sendings', Tallied (events ++ [event]) after.phase sendings' := by
  cases moved with
  | stop => exact ⟨_, tallied.want _ rfl rfl⟩
  | send _ => exact ⟨_, tallied.want _ rfl rfl⟩
  | accept => exact tallied.accept recalls
  | ask _ => exact ⟨_, tallied.skip rfl rfl id⟩
  -- The others neither want nor take a message.
  | fail | finish | refuse | lose | giveUp | pause => exact ⟨_, tallied.skip rfl rfl nofun⟩
  | _ => exact ⟨_, tallied.skip rfl rfl fun _ => rfl⟩

end Tallied

theorem Runs.tallied (runs : Runs {} events state) :
    ∃ sendings, Tallied events state.phase sendings := by
  refine runs.along (P := fun events state => ∃ sendings, Tallied events state.phase sendings) ?_ ?_
  · rintro events event between after earlier moved ⟨sendings, tallied⟩
    exact tallied.move moved earlier.recalls
  · exact ⟨[], rfl, rfl, List.forall_mem_nil _, fun _ => List.forall_mem_nil _⟩

/-! ## Repetitions -/

/-- What the events were since the agent took a message, if it did not take another one. -/
def Retries (message : Message) (events : List SessionEvent) : SessionPhase → Prop
  | .carrying other _ => other = message ∧ doings events = []
  | .faltering other _ => other = message ∧ ∃ status reply error, MayPass status error ∧
      doings events = [.settled status reply error]
  | .sending other _ => other = message ∧ ∃ status reply error, MayPass status error ∧
      doings events = [.settled status reply error, .paused true]
  | _ => True

theorem retries_asked (request : SessionRequest) (retries : Retries message events phase) :
    Retries message (events ++ [.asked request]) phase := by
  unfold Retries
  rw [doings_asked]
  exact retries

theorem Retries.move (moved : Move state event after) (unwanted : event.wanted? = none)
    (unaccepted : event.accepted? = none) (retries : Retries message events state.phase) :
    Retries message (events ++ [event]) after.phase := by
  cases moved with
  | ask _ => exact retries_asked _ retries
  | send _ => cases unwanted
  | accept => cases unaccepted
  | @falter _ _ _ _ status reply error mayPass =>
    obtain ⟨same, done⟩ := retries
    refine ⟨same, status, reply, error, mayPass, ?_⟩
    rw [doings_concat rfl, done, List.nil_append]
  | pause =>
    obtain ⟨same, status, reply, error, mayPass, done⟩ := retries
    refine ⟨same, status, reply, error, mayPass, ?_⟩
    rw [doings_concat rfl, done]
    rfl
  | _ => trivial

theorem Runs.retries {expectsReply : Bool} (runs : Runs state events after)
    (carrying : state.phase = .carrying message expectsReply) :
    (∀ event ∈ events, event.wanted? = none ∧ event.accepted? = none) →
      Retries message events after.phase := by
  refine runs.along (P := fun events after =>
    (∀ event ∈ events, event.wanted? = none ∧ event.accepted? = none) →
      Retries message events after.phase) ?_ ?_
  · intro events event between after _ moved inductionHypothesis quiet
    obtain ⟨earlier, last⟩ := List.forall_mem_append.1 quiet
    obtain ⟨unwanted, unaccepted⟩ := List.forall_mem_singleton.1 last
    exact (inductionHypothesis earlier).move moved unwanted unaccepted
  · intro _
    rw [carrying]
    exact ⟨rfl, rfl⟩

/-! ## Sequences -/

theorem Move.phases_of_accepted (moved : Move state (.accepted message) after) :
    ∃ expectsReply, state.phase = .sending message expectsReply ∧
      after.phase = .carrying message expectsReply := by
  cases moved with
  | accept => exact ⟨_, rfl, rfl⟩

theorem Runs.wellSequenced (runs : Runs {} events state) : WellSequenced events where
  sendings := by
    obtain ⟨sendings, tallied⟩ := runs.tallied
    exact ⟨sendings, tallied.wanted, tallied.accepted, tallied.earlier⟩
  repetitions := by
    rintro before between later message again rfl quiet
    obtain ⟨_, _, -, takes, runs⟩ := Runs.split_iff.1 runs
    obtain ⟨_, _, waits, retakes, -⟩ := Runs.split_iff.1 runs
    obtain ⟨_, -, carrying⟩ := takes.phases_of_accepted
    obtain ⟨_, sending, -⟩ := retakes.phases_of_accepted
    have retries := waits.retries carrying quiet
    rw [sending] at retries
    exact retries
  replies := by
    rintro before later reply rfl
    obtain ⟨_, _, earlier, tells, -⟩ := Runs.split_iff.1 runs
    have recalls := earlier.recalls
    rw [tells.ready_of_reply (SessionState.Sound.start.runs earlier)] at recalls
    exact recalls

namespace Synchronizer

variable {α β ν χ υ : Type} [Agent α] [Backend β] [PropertyNode ν]
  [Surroundings α (Happening β ν)] [Engine χ (Happening β ν)]

/-- At every moment of a session its messages are well sequenced, whatever its engine, agent and
policy are. -/
theorem wellSequenced_history {horizon : Nat} {password : String} {setting : Setting α β ν χ υ}
    {before later : List SessionEvent}
    (happened : history horizon password setting = before ++ later) : WellSequenced before := by
  obtain ⟨state, runs⟩ := runs_history horizon password setting
  rw [happened] at runs
  obtain ⟨between, earlier, -⟩ := Runs.append_iff.1 runs
  exact earlier.wellSequenced

/-- A session whose first transfer fails. -/
def answeredAgain :
    Setting (BareAgent StageHappening) ScriptedBackend MemoryNode (PlannedEngine StageHappening)
      Observer :=
  rehearsed [{ status := .failed }, { status := .gotReply, reply := some (shortMessage 2) }]
    { steps := [{ command := .ok (.send (shortMessage 1) true) }] }

/-- The message is sent once more, and the engine is told the reply to this sending. -/
theorem message_repeated_once :
    ∃ (before later earlier : List SessionEvent) (message : Message)
        (error : Option TransportError),
      history 2 "" answeredAgain =
          before ++ SessionEvent.told (.reply (shortMessage 2)) :: later ∧
        before.filterMap SessionEvent.accepted? = [shortMessage 1, shortMessage 1] ∧
        lastWanted before = some message ∧ doings before = earlier ++
          [SessionEvent.accepted message, .settled .gotReply (.ok (shortMessage 2)) error] := by
  have happened : history 2 "" answeredAgain =
      [SessionEvent.told .start, .answered (.ok (.send (shortMessage 1) true)),
          .accepted (shortMessage 1), .settled .failed (.error (.noReply .failed)) none,
          .paused true, .accepted (shortMessage 1),
          .settled .gotReply (.ok (shortMessage 2)) none] ++
        SessionEvent.told (.reply (shortMessage 2)) :: [.answered (.ok (.finish .success))] := by
    decide +kernel
  have whole := happened.trans (List.append_nil _).symm
  obtain ⟨earlier, message, error, wanted, done⟩ :=
    (wellSequenced_history whole).replies _ _ _ rfl
  exact ⟨_, _, earlier, message, error, happened, rfl, wanted, done⟩

end Synchronizer

end DataSync
