import DataSync.Proofs.Session.Repetitions
import DataSync.Proofs.Session.Run
import Mathlib.Algebra.GroupWithZero.Nat

/-!
# The counts of a session

What the report of a session says of the messages that were sent and sent again, compared with its
history.  A sending is counted when the agent has taken the message, but a resending already when the
pause before it is over.  So the counts are exact unless the agent takes a message and, given it again,
refuses it: then one resending is counted that was not made.
-/

namespace DataSync

variable {events : List SessionEvent} {event : SessionEvent} {state after : SessionState}

/-! ## How often messages are taken -/

namespace SessionEvent

/-- Whether the agent takes a message. -/
def isTaking : SessionEvent → Bool
  | accepted _ => true
  | _ => false

/-- Whether the session paused before it sends a message again. -/
def isPause : SessionEvent → Bool
  | paused taken => taken
  | _ => false

/-- Whether the agent refuses a message. -/
def isRefusal : SessionEvent → Bool
  | refused _ => true
  | _ => false

/-- How often the agent took each message that the engine wanted to send, the latest message first,
after one more event. -/
def tally (counts : List Nat) : SessionEvent → List Nat
  | answered (.ok (.send _ _)) => 0 :: counts
  | accepted _ => (counts.headD 0 + 1) :: counts.tail
  | _ => counts

end SessionEvent

/-- How often the agent takes each message that the engine wants to send, the latest message first. -/
def takings (events : List SessionEvent) : List Nat :=
  events.foldl SessionEvent.tally []

/-- How often the message is taken that the engine wanted to send last. -/
def latestTakings (events : List SessionEvent) : Nat :=
  (takings events).headD 0

/-- The messages that are taken at least once. -/
def messagesTaken (events : List SessionEvent) : Nat :=
  (takings events).countP (0 < ·)

/-- The sendings that send a message again. -/
def resendings (events : List SessionEvent) : Nat :=
  ((takings events).map (· - 1)).sum

/-- The agent refuses a message that it took before. -/
def RefusesAgain (events : List SessionEvent) : Prop :=
  ∃ (before : List SessionEvent) (e : TransportError) (later : List SessionEvent),
    events = before ++ SessionEvent.refused e :: later ∧ 0 < latestTakings before

theorem takings_concat (events : List SessionEvent) (event : SessionEvent) :
    takings (events ++ [event]) = event.tally (takings events) := by
  simp [takings]

theorem sum_takings (events : List SessionEvent) :
    (takings events).sum = events.countP SessionEvent.isTaking := by
  induction events using List.reverseRecOn with
  | nil => rfl
  | append_singleton events event inductionHypothesis =>
    rw [takings_concat, List.countP_append, ← inductionHypothesis]
    cases event with
    | accepted message =>
      cases takings events with
      | nil => simp [SessionEvent.tally, SessionEvent.isTaking]
      | cons times rest =>
        simp only [SessionEvent.tally, SessionEvent.isTaking, List.headD_cons, List.tail_cons,
          List.sum_cons, List.countP_singleton, if_true]
        omega
    | answered answer =>
      rcases answer with _ | _ | _ <;> simp [SessionEvent.tally, SessionEvent.isTaking]
    | _ => simp [SessionEvent.tally, SessionEvent.isTaking]

/-- Every sending sends a message for the first time or again. -/
theorem sum_takings_eq (events : List SessionEvent) :
    (takings events).sum = resendings events + messagesTaken events := by
  unfold resendings messagesTaken
  induction takings events with
  | nil => rfl
  | cons times rest inductionHypothesis =>
    simp only [List.sum_cons, List.map_cons, List.countP_cons, inductionHypothesis]
    by_cases taken : 0 < times <;> simp [taken] <;> omega

theorem refusesAgain_concat_iff : RefusesAgain (events ++ [event]) ↔
    RefusesAgain events ∨ event.isRefusal = true ∧ 0 < latestTakings events := by
  constructor
  · rintro ⟨before, e, later, split, taken⟩
    obtain rfl | ⟨later, last, rfl⟩ := List.eq_nil_or_concat later
    · obtain ⟨rfl, same⟩ := List.append_inj' split rfl
      cases same
      exact .inr ⟨rfl, taken⟩
    · have longer : events ++ [event] = (before ++ SessionEvent.refused e :: later) ++ [last] := by
        rw [split, List.concat_eq_append, List.append_assoc, List.cons_append]
      exact .inl ⟨before, e, later, (List.append_inj' longer rfl).1, taken⟩
  · rintro (⟨before, e, later, rfl, taken⟩ | ⟨refusal, taken⟩)
    · exact ⟨before, e, later ++ [event], by simp, taken⟩
    · cases event with
      | refused e => exact ⟨events, e, [], rfl, taken⟩
      | _ => cases refusal

/-! ## Pauses and resendings in a run -/

def pauses (events : List SessionEvent) : Nat :=
  events.countP SessionEvent.isPause

theorem pauses_concat (events : List SessionEvent) (event : SessionEvent) :
    pauses (events ++ [event]) = pauses events + if event.isPause then 1 else 0 := by
  simp [pauses, List.countP_cons]

/-- An event that neither changes how often messages are taken nor has to do with a resending. -/
structure SessionEvent.Quiet (event : SessionEvent) : Prop where
  tally : ∀ counts, event.tally counts = counts
  unpaused : event.isPause = false
  unrefused : event.isRefusal = false

/-- How the resendings stand to the pauses in a phase.  When a pause is over, the resending that it was
for is still to come.  If it was refused, it does not come any more. -/
def Balanced (events : List SessionEvent) : SessionPhase → Prop
  | .sending _ _ => ¬ RefusesAgain events ∧
      pauses events = resendings events + min 1 (latestTakings events)
  | .carrying _ _ | .faltering _ _ => ¬ RefusesAgain events ∧
      pauses events = resendings events ∧ 0 < latestTakings events
  | .ended _ => ¬ RefusesAgain events ∧ pauses events = resendings events ∨
      RefusesAgain events ∧ pauses events = resendings events + 1
  | _ => ¬ RefusesAgain events ∧ pauses events = resendings events

theorem resendings_of_untallied (untallied : ∀ counts, event.tally counts = counts) :
    resendings (events ++ [event]) = resendings events ∧
      latestTakings (events ++ [event]) = latestTakings events := by
  unfold resendings latestTakings
  rw [takings_concat, untallied]
  exact ⟨rfl, rfl⟩

theorem SessionEvent.Quiet.balanced_iff (quiet : event.Quiet) {phase : SessionPhase} :
    Balanced (events ++ [event]) phase ↔ Balanced events phase := by
  obtain ⟨sent, latest⟩ : resendings (events ++ [event]) = resendings events ∧ _ :=
    resendings_of_untallied quiet.tally
  have paused : pauses (events ++ [event]) = pauses events := by
    simp [pauses_concat, quiet.unpaused]
  have refuses : RefusesAgain (events ++ [event]) ↔ RefusesAgain events := by
    rw [refusesAgain_concat_iff, quiet.unrefused]
    simp
  unfold Balanced
  rw [sent, latest, paused, refuses]

theorem not_refusesAgain_concat (unrefused : event.isRefusal = false)
    (sound : ¬ RefusesAgain events) : ¬ RefusesAgain (events ++ [event]) := by
  rw [refusesAgain_concat_iff, unrefused]
  simpa using sound

/-- The engine wants to send one more message, which was not taken yet. -/
theorem balanced_wanted {message : Message} {expectsReply : Bool}
    (paid : pauses events = resendings events) :
    let events' := events ++ [SessionEvent.answered (.ok (.send message expectsReply))]
    pauses events' = resendings events' ∧ latestTakings events' = 0 := by
  constructor
  · simpa [pauses_concat, resendings, takings_concat, SessionEvent.tally, SessionEvent.isPause]
      using paid
  · simp [latestTakings, takings_concat, SessionEvent.tally]

/-- A message is taken, and if it was taken before, this is the resending that was owed. -/
theorem balanced_taken {message : Message}
    (owed : pauses events = resendings events + min 1 (latestTakings events)) :
    let events' := events ++ [SessionEvent.accepted message]
    pauses events' = resendings events' ∧ 0 < latestTakings events' := by
  constructor
  · rw [pauses_concat, owed]
    unfold resendings latestTakings
    rw [takings_concat]
    cases takings events with
    | nil => rfl
    | cons times rest =>
      simp only [SessionEvent.tally, SessionEvent.isPause, List.headD_cons, List.tail_cons,
        List.map_cons, List.sum_cons, Bool.false_eq_true, if_false]
      omega
  · simp [latestTakings, takings_concat, SessionEvent.tally]

theorem Balanced.move (moved : Move state event after) (balanced : Balanced events state.phase) :
    Balanced (events ++ [event]) after.phase := by
  cases moved with
  | ask | proceed | preempt | interrupt | falter =>
    exact (SessionEvent.Quiet.balanced_iff ⟨fun _ => rfl, rfl, rfl⟩).2 balanced
  | fail | finish =>
    exact (SessionEvent.Quiet.balanced_iff ⟨fun _ => rfl, rfl, rfl⟩).2 (Or.inl balanced)
  | reply | deliver | callOff | stir =>
    exact (SessionEvent.Quiet.balanced_iff ⟨fun _ => rfl, rfl, rfl⟩).2
      (And.intro balanced.1 balanced.2.1)
  | lose | giveUp =>
    exact (SessionEvent.Quiet.balanced_iff ⟨fun _ => rfl, rfl, rfl⟩).2
      (Or.inl ⟨balanced.1, balanced.2.1⟩)
  | stop =>
    obtain ⟨sound, paid⟩ := balanced
    exact .inl ⟨not_refusesAgain_concat rfl sound, (balanced_wanted paid).1⟩
  | send =>
    obtain ⟨sound, paid⟩ := balanced
    obtain ⟨paid, fresh⟩ := balanced_wanted paid
    refine ⟨not_refusesAgain_concat rfl sound, ?_⟩
    rw [fresh]
    exact paid
  | accept => exact ⟨not_refusesAgain_concat rfl balanced.1, balanced_taken balanced.2⟩
  | @refuse _ _ message expectsReply e =>
    obtain ⟨sound, owed⟩ := balanced
    have paused : pauses (events ++ [.refused e]) = pauses events := pauses_concat ..
    obtain ⟨sent, -⟩ : resendings (events ++ [.refused e]) = resendings events ∧ _ :=
      resendings_of_untallied fun _ => rfl
    -- Only a message that was taken before leaves a pause without its resending.
    obtain fresh | taken := Nat.eq_zero_or_pos (latestTakings events)
    · refine .inl ⟨?_, by rw [paused, sent, owed, fresh]; rfl⟩
      rw [refusesAgain_concat_iff, fresh]
      simpa using sound
    · refine .inr ⟨refusesAgain_concat_iff.2 (.inr ⟨rfl, taken⟩), ?_⟩
      rw [paused, sent, owed, Nat.min_eq_left taken]
  | @pause _ message expectsReply =>
    obtain ⟨sound, paid, taken⟩ := balanced
    obtain ⟨sent, latest⟩ : resendings (events ++ [.paused true]) = resendings events ∧ _ :=
      resendings_of_untallied fun _ => rfl
    refine ⟨not_refusesAgain_concat rfl sound, ?_⟩
    rw [pauses_concat, paid, sent, latest, Nat.min_eq_left taken]
    rfl

theorem Runs.balanced (runs : Runs {} events state) : Balanced events state.phase := by
  refine runs.along (P := fun events state => Balanced events state.phase)
    (fun _ moved balanced => balanced.move moved) ⟨?_, rfl⟩
  rintro ⟨before, e, later, nothing, -⟩
  simp at nothing

/-! ## What a session counts -/

namespace Session

variable {α β ν χ γ : Type}

/-- The counts of a session and its time. -/
def meters (session : Session α β ν) : Nat × Nat × Duration :=
  (session.messagesSent, session.retries, session.clock)

/-- How the counts of a session stand to its history: each message that was taken is counted, and so is
each pause but for some of the last ones. -/
structure Counted (uncounted : Nat) (session : Session α β ν) : Prop where
  sent : session.messagesSent = session.history.countP SessionEvent.isTaking
  retried : session.retries + uncounted = pauses session.history

variable {session other : Session α β ν} {uncounted : Nat}

theorem Counted.note {event : SessionEvent} (counted : session.Counted uncounted)
    (untaken : event.isTaking = false) (unpaused : event.isPause = false) :
    (session.note event).Counted uncounted where
  sent := by simpa [untaken] using counted.sent
  retried := by simpa [pauses_concat, unpaused] using counted.retried

theorem Counted.congr (counted : session.Counted uncounted)
    (same : other.meters = session.meters) (unnoted : other.history = session.history) :
    other.Counted uncounted where
  sent := by
    rw [unnoted]
    exact (congrArg (·.1) same).trans counted.sent
  retried := by
    rw [unnoted, ← counted.retried]
    exact congrArg (·.2.1 + uncounted) same

/-- A message that the agent takes is counted at once. -/
theorem Counted.take {message : Message} (counted : session.Counted uncounted)
    (sent : other.messagesSent = session.messagesSent + 1) (retried : other.retries = session.retries)
    (unnoted : other.history = session.history) :
    (other.note (.accepted message)).Counted uncounted where
  sent := by
    rw [messagesSent_note, sent, counted.sent, history_note, unnoted, List.countP_append]
    rfl
  retried := by
    rw [retries_note, retried, counted.retried, history_note, unnoted, pauses_concat]
    rfl

/-- A pause is not counted yet when it is over. -/
theorem Counted.pause (counted : session.Counted uncounted) :
    (session.note (.paused true)).Counted (uncounted + 1) where
  sent := by
    rw [messagesSent_note, counted.sent, history_note, List.countP_append]
    rfl
  retried := by
    rw [retries_note, ← Nat.add_assoc, counted.retried, history_note, pauses_concat]
    rfl

theorem Counted.catchUp (counted : session.Counted (uncounted + 1)) :
    Counted uncounted { session with retries := session.retries + 1 } where
  sent := counted.sent
  retried := by
    rw [← Nat.add_right_comm, Nat.add_assoc]
    exact counted.retried

variable [Agent α] [Backend β] [PropertyNode ν]

/-! ### Happenings -/

theorem meters_meet (session : Session α β ν) (happening : Happening β ν) :
    (session.meet happening).meters = session.meters := by
  have kept (handle : SessionHandle) : (session.withHandle handle).meters = session.meters := by
    unfold withHandle
    dsimp only
    split <;> split <;> rfl
  cases happening with
  | suspend => exact kept _
  | abort => exact kept _
  | interrupt => exact kept _
  | disturbance change => rfl

theorem meters_foldl_meet (happenings : List (Happening β ν)) (session : Session α β ν) :
    (happenings.foldl meet session).meters = session.meters := by
  induction happenings generalizing session with
  | nil => rfl
  | cons happening rest inductionHypothesis =>
    rw [List.foldl_cons, inductionHypothesis, meters_meet]

theorem meters_look [Surroundings α (Happening β ν)] (session : Session α β ν) :
    session.look.meters = session.meters :=
  meters_foldl_meet _ _

theorem Counted.meet (happening : Happening β ν) (counted : session.Counted uncounted) :
    (session.meet happening).Counted uncounted := by
  have same := session.meters_meet happening
  obtain ⟨-, unnoted⟩ | ⟨-, noted⟩ := session.meet_cases happening
  · exact counted.congr same unnoted
  · have asked : (session.note (.asked (session.meet happening).handle.request)).Counted uncounted :=
      counted.note rfl rfl
    exact asked.congr same noted

theorem Counted.foldl_meet (happenings : List (Happening β ν)) (counted : session.Counted uncounted) :
    (happenings.foldl Session.meet session).Counted uncounted := by
  induction happenings generalizing session with
  | nil => exact counted
  | cons happening rest inductionHypothesis => exact inductionHypothesis (counted.meet happening)

theorem Counted.perform (program : ItemProgram (Happening β ν) γ)
    (counted : session.Counted uncounted) : (session.perform program).2.Counted uncounted := by
  induction program generalizing session with
  | pure result => exact counted
  | read source luid next inductionHypothesis => exact inductionHypothesis _ (counted.congr rfl rfl)
  | insert source luid content next inductionHypothesis =>
    exact inductionHypothesis _ (counted.congr rfl rfl)
  | delete source luid next inductionHypothesis =>
    exact inductionHypothesis _ (counted.congr rfl rfl)
  | meanwhile happening next inductionHypothesis =>
    exact inductionHypothesis (counted.meet happening)

theorem Counted.tell [Engine χ (Happening β ν)] {engine : χ} (input : StepInput)
    (counted : session.Counted uncounted) :
    (session.tell input engine).2.2.Counted uncounted := by
  have told : (session.note (.told input)).Counted uncounted := counted.note rfl rfl
  exact (told.perform (Engine.step input engine)).note rfl rfl

variable [Surroundings α (Happening β ν)]

theorem Counted.look (counted : session.Counted uncounted) : session.look.Counted uncounted :=
  Counted.foldl_meet _ (counted.congr rfl rfl)

/-! ### Transfers -/

variable {message : Message} {expectsReply : Bool} {delivered : SessionRequest}
  {after : Session α β ν}

omit [Backend β] [PropertyNode ν] [Surroundings α (Happening β ν)] in
theorem Counted.hand (message : Message) (counted : session.Counted uncounted) :
    (session.hand message).2.Counted uncounted := by
  unfold Session.hand
  split
  · rename_i e agent refused
    have given : Counted uncounted { session with agent } := counted.congr rfl rfl
    exact given.note rfl rfl
  · exact counted.take rfl rfl rfl

theorem Counted.await (noReply : Bool) (counted : session.Counted uncounted) :
    (session.await noReply).2.Counted uncounted := by
  unfold Session.await
  have looked : session.look.Counted uncounted := counted.look
  refine Counted.note (Counted.look ?_) rfl rfl
  exact ⟨looked.sent, looked.retried⟩

theorem Counted.attempt {attempt : Attempt} (counted : session.Counted uncounted)
    (attempted : session.attempt delivered message expectsReply = (attempt, after)) :
    after.Counted uncounted := by
  have handed := counted.hand message
  unfold Session.attempt at attempted
  split at attempted
  · rename_i refused
    cases attempted
    rw [refused] at handed
    exact handed
  · rename_i taken
    rw [taken] at handed
    dsimp only at attempted
    split at attempted
    · cases attempted
      exact handed.look.await _
    · cases attempted
      exact Counted.await _ (handed.look.congr rfl rfl)

theorem Counted.rest {time : Duration} {taken : Bool} (counted : session.Counted 0)
    (rested : session.rest time = (taken, after)) : after.Counted taken.toNat := by
  have looked : session.look.Counted 0 := counted.look
  unfold Session.rest at rested
  dsimp only at rested
  split at rested
  · cases rested
    exact Counted.pause ⟨looked.sent, looked.retried⟩
  · cases rested
    exact looked.note rfl rfl

theorem Counted.transfer {policy : RetryPolicy} {elapsed : Duration}
    {result : Except SyncError Exchange} (counted : session.Counted 0)
    (transferred : session.transfer policy delivered message expectsReply elapsed = (result, after)) :
    after.Counted 0 := by
  fun_induction Session.transfer policy delivered message expectsReply elapsed session with
  | case1 _ _ _ _ attempted =>
    cases transferred
    exact counted.attempt attempted
  | case2 _ _ _ _ attempted _ _ _ rested =>
    cases transferred
    exact (counted.attempt attempted).rest rested
  | case3 _ _ _ _ attempted _ _ _ rested inductionHypothesis =>
    exact inductionHypothesis ((counted.attempt attempted).rest rested).catchUp transferred
  | case4 _ _ _ _ attempted =>
    cases transferred
    exact (counted.attempt attempted).note rfl rfl

theorem Counted.converse [Engine χ (Happening β ν)] (policy : RetryPolicy) (horizon : Nat)
    (delivered : SessionRequest) (input : StepInput) (engine : χ) (counted : session.Counted 0) :
    (session.converse policy horizon delivered input engine).2.2.Counted 0 :=
  Session.converse_keeps (P := fun (_ : χ) session => session.Counted 0) Counted.look Counted.tell
    (fun _ _ _ _ counted => counted.transfer rfl) policy horizon delivered input counted

end Session

namespace Synchronizer

variable {α β ν χ υ : Type} [Agent α] [Backend β] [PropertyNode ν]
  [Surroundings α (Happening β ν)] [Engine χ (Happening β ν)]

theorem counted_proceed (horizon : Nat) (password : String) (setting : Setting α β ν χ υ) :
    (proceed horizon password setting).2.2.Counted 0 := by
  have begun : (opening setting).Counted 0 := ⟨rfl, rfl⟩
  obtain ⟨e, engine, -, proceeded⟩ | ⟨engine, -, proceeded⟩ :=
    proceed_cases horizon password setting
  · rw [proceeded]
    exact begun
  · rw [proceeded]
    exact begun.converse ..

/-- When a session is over, its pauses are counted as its resendings, and there is one more of them if a
resending was refused. -/
theorem pauses_of_exchange {horizon : Nat} {password : String} {setting : Setting α β ν χ υ}
    {ending : Except SyncError SessionEnd} {engine : χ} {session : Session α β ν}
    (exchanged : exchange horizon password setting = some (ending, engine, session)) :
    let events := history horizon password setting
    session.messagesSent = events.countP SessionEvent.isTaking ∧
      (¬ RefusesAgain events ∧ session.retries = resendings events ∨
        RefusesAgain events ∧ session.retries = resendings events + 1) := by
  rw [exchange_eq_some_iff] at exchanged
  have happened : session.history = history horizon password setting := by
    rw [history, exchanged]
  have counted : session.Counted 0 := by
    have counted : (proceed horizon password setting).2.2.Counted 0 := counted_proceed ..
    rwa [exchanged] at counted
  obtain ⟨sent, retried⟩ := counted
  rw [happened] at sent retried
  refine ⟨sent, ?_⟩
  rw [Nat.add_zero] at retried
  rw [retried]
  obtain ⟨delivered, phase, stands, finished, -⟩ := standsAt_proceed horizon password setting
  have balanced : Balanced (history horizon password setting) phase := Runs.balanced stands
  -- A session in which nothing happened is over without having come to an end of its course.
  by_cases quiet : history horizon password setting = []
  · have start : phase = .ready .start := by
      have runs : Runs {} (history horizon password setting) _ := stands
      rw [quiet] at runs
      exact (congrArg SessionState.phase runs).symm
    rw [start] at balanced
    exact .inl balanced
  · have final : some ending = phase.ending? := by
      have ended : (proceed horizon password setting).1 = phase.ending? := finished quiet
      rwa [exchanged] at ended
    cases phase with
    | ended ending => exact balanced
    | _ => cases final

omit [Agent α] [Surroundings α (Happening β ν)] [Engine χ (Happening β ν)] in
theorem finish_counts (config : SyncConfig) (ending : Except SyncError SessionEnd)
    (session : Session α β ν) :
    (finish config ending session).1.messagesSent = session.messagesSent ∧
      (finish config ending session).1.retries = session.retries := by
  have withSources (sources : Table SourceReport) (report : SyncReport) :
      (report.withSources sources).messagesSent = report.messagesSent ∧
        (report.withSources sources).retries = report.retries := by
    unfold SyncReport.withSources
    dsimp only
    repeat' split
    all_goals exact ⟨rfl, rfl⟩
  have conclude (report : SyncReport) :
      (report.conclude ending).messagesSent = report.messagesSent ∧
        (report.conclude ending).retries = report.retries := by
    unfold SyncReport.conclude
    split <;> exact ⟨rfl, rfl⟩
  obtain ⟨sent, retried⟩ := withSources _ _
  exact ⟨sent.trans (conclude _).1, retried.trans (conclude _).2⟩

variable [UserInterface υ]

/-- The report counts the sendings that the agent took.  It counts those of them that sent a message
again, so that without them there are as many as messages were taken, unless the agent refused a message
that it had taken before; then it counts one more. -/
theorem counts_exact_iff {horizon : Nat} {setting after : Setting α β ν χ υ} {report : SyncReport}
    (ran : run horizon setting = some (.ok report, after)) :
    ∃ password person,
      (setting.synchronizer.config.resolvePassword).on setting.person = (.ok password, person) ∧
      let events := history horizon password setting
      report.messagesSent = events.countP SessionEvent.isTaking ∧
      (report.retries = resendings events ∧
          report.messagesSent - report.retries = messagesTaken events ↔ ¬ RefusesAgain events) ∧
      (RefusesAgain events → report.retries = resendings events + 1) := by
  obtain ⟨refused, -⟩ | ⟨e, person, -, refused, -⟩ |
    ⟨ending, session, person, engine, exchanges, reported, -⟩ := run_outcomes ran
  · cases refused
  · cases refused
  cases reported
  obtain ⟨password, person, engine, resolved, exchanged⟩ := exchanges
  obtain ⟨sent, retried⟩ := pauses_of_exchange exchanged
  obtain ⟨sameSent, sameRetries⟩ := finish_counts setting.synchronizer.config ending session
  refine ⟨password, person, resolved, sameSent.trans sent, ?_, ?_⟩
  · rw [sameSent, sameRetries, sent, ← sum_takings, sum_takings_eq]
    obtain ⟨sound, exact⟩ | ⟨refuses, more⟩ := retried
    · rw [exact, Nat.add_sub_cancel_left]
      simp [sound]
    · rw [more]
      simp [refuses]
  · intro refuses
    rw [sameRetries]
    exact (retried.resolve_left fun ⟨sound, _⟩ => sound refuses).2

/-- The counts of a report, if there is one. -/
def reportedCounts (ran : Option (Except SyncError SyncReport × Setting α β ν χ υ)) :
    Option (Nat × Nat) :=
  (ran.bind (·.1.toOption)).map fun report => (report.messagesSent, report.retries)

omit [Agent α] [Backend β] [PropertyNode ν] [Surroundings α (Happening β ν)]
  [Engine χ (Happening β ν)] [UserInterface υ] in
theorem exists_report {ran : Option (Except SyncError SyncReport × Setting α β ν χ υ)}
    {sent retries : Nat} (counted : reportedCounts ran = some (sent, retries)) :
    ∃ report after, ran = some (.ok report, after) ∧ report.messagesSent = sent ∧
      report.retries = retries := by
  rcases ran with _ | ⟨e | report, after⟩
  · cases counted
  · cases counted
  · cases counted
    exact ⟨report, after, rfl, rfl, rfl⟩

/-- A message that was sent twice counts as one message. -/
theorem counts_of_answered_again :
    ∃ report after, run 2 answeredAgain = some (.ok report, after) ∧
      (history 2 "" answeredAgain).countP SessionEvent.isTaking = 2 ∧ report.messagesSent = 2 ∧
      report.retries = resendings (history 2 "" answeredAgain) ∧
      report.messagesSent - report.retries = messagesTaken (history 2 "" answeredAgain) := by
  have counted : reportedCounts (run 2 answeredAgain) = some (2, 1) := by decide +kernel
  obtain ⟨report, after, ran, -, -⟩ := exists_report counted
  obtain ⟨password, person, resolved, sent, exact, -⟩ := counts_exact_iff ran
  obtain rfl : password = "" := by
    cases resolved
    rfl
  have taken : (history 2 "" answeredAgain).countP SessionEvent.isTaking = 2 := by decide +kernel
  have willing : (history 2 "" answeredAgain).any SessionEvent.isRefusal = false := by decide +kernel
  obtain ⟨resent, once⟩ := exact.2 <| by
    rintro ⟨before, e, later, refused, -⟩
    simp [refused, SessionEvent.isRefusal] at willing
  exact ⟨report, after, ran, taken, sent.trans taken, resent, once⟩

/-- A session whose first transfer fails, and whose agent refuses the message when it is sent again. -/
def refusedAgain :
    Setting (BareAgent StageHappening) ScriptedBackend MemoryNode (PlannedEngine StageHappening)
      Observer :=
  { rehearsed [] { steps := [{ command := .ok (.send (shortMessage 1) true) }] } with
    synchronizer := { config := { name := "work", retry := { budget := 3, interval := 1 } } }
    agent := { script := [{ status := .failed }], refusals := [none, some .closed] } }

/-- A resending is counted although the message was sent only once. -/
theorem refused_resending_counted :
    (∃ report after, run 2 refusedAgain = some (.ok report, after) ∧ report.messagesSent = 1 ∧
      report.retries = 1) ∧
    (history 2 "" refusedAgain).countP SessionEvent.isTaking = 1 ∧
    resendings (history 2 "" refusedAgain) = 0 ∧ messagesTaken (history 2 "" refusedAgain) = 1 :=
  ⟨exists_report (by decide +kernel), by decide +kernel, by decide +kernel, by decide +kernel⟩

end Synchronizer

end DataSync
