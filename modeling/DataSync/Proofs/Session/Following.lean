import DataSync.Proofs.Session.Course

/-!
# Sessions follow their course

Every history is a run, whatever engine, agent, sources and surroundings a session has and whatever
the horizon is.  Each part of a session is shown to lead from one phase of its course to another
one; what happens around it meanwhile changes the pending request only.
-/

namespace DataSync

/-- A request that is made either goes further than the one that is pending or changes nothing. -/
theorem SessionHandle.request_ask {request : SessionRequest} (handle : SessionHandle)
    (real : request ≠ .none) : (handle.ask request).request = handle.request ∨
      handle.request.rank < (handle.ask request).request.rank := by
  unfold SessionHandle.ask
  split
  · exact .inl rfl
  · rename_i changes
    obtain ⟨notAborted, different⟩ := not_or.1 changes
    right
    revert notAborted different real
    cases handle.request <;> cases request <;> simp [SessionRequest.rank]

theorem Session.request_withHandle {α β ν : Type} [Agent α] (handle : SessionHandle)
    (session : Session α β ν) :
    (session.withHandle handle).handle.request = handle.request := by
  unfold withHandle
  dsimp only
  split <;> rfl

theorem Session.history_withHandle {α β ν : Type} [Agent α] (handle : SessionHandle)
    (session : Session α β ν) :
    (session.withHandle handle).history =
      if handle.request = session.handle.request then session.history
      else session.history ++ [.asked handle.request] := by
  unfold withHandle
  dsimp only
  split <;> split <;> rfl

/-- What happens around a session is noted if it is a request that goes further than the pending one. -/
theorem Session.meet_cases {α β ν : Type} [Agent α] [Backend β] [PropertyNode ν]
    (session : Session α β ν) (happening : Happening β ν) :
    (session.meet happening).handle.request = session.handle.request ∧
        (session.meet happening).history = session.history ∨
      session.handle.request.rank < (session.meet happening).handle.request.rank ∧
        (session.meet happening).history =
          session.history ++ [.asked (session.meet happening).handle.request] := by
  have noted (handle : SessionHandle) (further : handle.request = session.handle.request ∨
      session.handle.request.rank < handle.request.rank) :
      (session.withHandle handle).handle.request = session.handle.request ∧
          (session.withHandle handle).history = session.history ∨
        session.handle.request.rank < (session.withHandle handle).handle.request.rank ∧
          (session.withHandle handle).history =
            session.history ++ [.asked (session.withHandle handle).handle.request] := by
    rw [request_withHandle, history_withHandle]
    obtain same | more := further
    · exact .inl ⟨same, if_pos same⟩
    · have different : handle.request ≠ session.handle.request := fun same => by
        rw [same] at more
        exact Nat.lt_irrefl _ more
      exact .inr ⟨more, if_neg different⟩
  cases happening with
  | suspend => exact noted _ (SessionHandle.request_ask _ nofun)
  | abort => exact noted _ (SessionHandle.request_ask _ nofun)
  | interrupt =>
    refine noted _ (SessionHandle.request_ask
      { session.handle with lastInterrupt := some session.clock } ?_)
    split <;> nofun
  | disturbance change => exact .inl ⟨rfl, rfl⟩

/-! ## Phases after transfers -/

/-- The phase after a transfer. -/
def phaseAfter : Except SyncError Exchange → SessionPhase
  | .error e => .ended (.error e)
  | .ok (.replied reply) => .ready (.reply reply)
  | .ok .sent => .ready .sent
  | .ok (.interrupted _) => .interrupted

/-- The phase after one attempt to transfer a message. -/
def phaseAfterAttempt (message : Message) (expectsReply : Bool) : Attempt → SessionPhase
  | .settled result => phaseAfter result
  | .failed _ => .faltering message expectsReply

/-- What a session makes of a status is one of the moves that may follow it. -/
theorem Session.move_verdict {α β ν : Type} [Agent α] (session : Session α β ν)
    (delivered : SessionRequest) (message : Message) (expectsReply : Bool)
    (status : TransportStatus) :
    Move ⟨session.handle.request, delivered, .carrying message expectsReply⟩
      (.settled status (Agent.reply session.agent) (Agent.lastError session.agent))
      ⟨session.handle.request, delivered, phaseAfterAttempt message expectsReply
        (session.verdict delivered expectsReply status)⟩ := by
  cases status with
  | gotReply =>
    simp only [Session.verdict]
    cases Agent.reply session.agent with
    | ok reply => exact .reply
    | error e => exact .lose
  | inactive =>
    cases expectsReply with
    | true => exact .lose
    | false => exact .deliver
  | canceled =>
    simp only [Session.verdict]
    split
    · rename_i undelivered
      exact .callOff undelivered
    · exact .lose
  | timeOut => exact .falter (.inl rfl)
  | failed =>
    simp only [Session.verdict]
    cases Agent.lastError session.agent with
    | none => exact .falter (.inr ⟨rfl, nofun⟩)
    | some e =>
      dsimp only
      split
      · rename_i retryable
        exact .falter (.inr ⟨rfl, by rintro _ ⟨⟩; exact retryable⟩)
      · exact .lose
  | active => exact .lose
  | closed => exact .lose

/-- An attempt that is interrupted names the request that is pending. -/
theorem Session.request_of_verdict {α β ν : Type} [Agent α] {session : Session α β ν}
    {delivered request : SessionRequest} {expectsReply : Bool} {status : TransportStatus}
    (interrupted : session.verdict delivered expectsReply status =
      .settled (.ok (.interrupted request))) : request = session.handle.request := by
  cases status with
  | gotReply =>
    simp only [Session.verdict] at interrupted
    split at interrupted <;> cases interrupted
  | inactive => cases expectsReply <;> cases interrupted
  | canceled =>
    simp only [Session.verdict] at interrupted
    split at interrupted <;> cases interrupted
    rfl
  | failed =>
    simp only [Session.verdict] at interrupted
    repeat' split at interrupted
    all_goals cases interrupted
  | timeOut => cases interrupted
  | active => cases interrupted
  | closed => cases interrupted

namespace Session

variable {α β ν χ γ : Type}

/-- The history of the session is a run that leads to this phase. -/
def StandsAt (delivered : SessionRequest) (phase : SessionPhase) (session : Session α β ν) : Prop :=
  Runs {} session.history ⟨session.handle.request, delivered, phase⟩

variable {session other : Session α β ν} {delivered : SessionRequest} {phase : SessionPhase}

theorem StandsAt.sound (stands : session.StandsAt delivered phase) :
    SessionState.Sound ⟨session.handle.request, delivered, phase⟩ :=
  SessionState.Sound.start.runs stands

theorem StandsAt.note {delivered' : SessionRequest} {phase' : SessionPhase} {event : SessionEvent}
    (stands : session.StandsAt delivered phase)
    (moved : Move ⟨session.handle.request, delivered, phase⟩ event
      ⟨session.handle.request, delivered', phase'⟩) :
    (session.note event).StandsAt delivered' phase' :=
  Runs.concat_iff.2 ⟨_, stands, moved⟩

/-- A change that leaves the pending request alone, and is not noted, is not seen. -/
theorem StandsAt.congr (stands : session.StandsAt delivered phase)
    (pending : other.handle.request = session.handle.request)
    (unnoted : other.history = session.history) : other.StandsAt delivered phase := by
  unfold StandsAt
  rw [pending, unnoted]
  exact stands

variable [Agent α] [Backend β] [PropertyNode ν]

/-! ## Happenings -/

theorem StandsAt.meet (happening : Happening β ν) (stands : session.StandsAt delivered phase) :
    (session.meet happening).StandsAt delivered phase := by
  obtain ⟨same, unnoted⟩ | ⟨further, noted⟩ := session.meet_cases happening
  · exact stands.congr same unnoted
  · unfold StandsAt
    rw [noted]
    exact Runs.concat_iff.2 ⟨_, stands, .ask further⟩

theorem StandsAt.foldl_meet (happenings : List (Happening β ν))
    (stands : session.StandsAt delivered phase) :
    (happenings.foldl Session.meet session).StandsAt delivered phase := by
  induction happenings generalizing session with
  | nil => exact stands
  | cons happening rest inductionHypothesis => exact inductionHypothesis (stands.meet happening)

theorem StandsAt.perform (program : ItemProgram (Happening β ν) γ)
    (stands : session.StandsAt delivered phase) :
    (session.perform program).2.StandsAt delivered phase := by
  induction program generalizing session with
  | pure result => exact stands
  | read source luid next inductionHypothesis => exact inductionHypothesis _ (stands.congr rfl rfl)
  | insert source luid content next inductionHypothesis =>
    exact inductionHypothesis _ (stands.congr rfl rfl)
  | delete source luid next inductionHypothesis =>
    exact inductionHypothesis _ (stands.congr rfl rfl)
  | meanwhile happening next inductionHypothesis =>
    exact inductionHypothesis (stands.meet happening)

variable [Surroundings α (Happening β ν)]

theorem StandsAt.look (stands : session.StandsAt delivered phase) :
    session.look.StandsAt delivered phase := by
  unfold Session.look
  rcases (Surroundings.happenings : StateM α (List (Happening β ν))) session.agent with
    ⟨happenings, agent⟩
  exact StandsAt.foldl_meet happenings (stands.congr rfl rfl)

/-! ## Transfers -/

/-- Where a session stands with a result.  A request that interrupts is the pending one. -/
structure StandsAfter (delivered : SessionRequest) (result : Except SyncError Exchange)
    (session : Session α β ν) : Prop where
  stands : session.StandsAt delivered (phaseAfter result)
  asked : ∀ request, result = .ok (.interrupted request) → request = session.handle.request

omit [Backend β] [PropertyNode ν] [Surroundings α (Happening β ν)] in
theorem StandsAt.hand {message : Message} {expectsReply : Bool}
    {answer : Except TransportError Unit} {after : Session α β ν}
    (stands : session.StandsAt delivered (.sending message expectsReply))
    (handed : session.hand message = (answer, after)) :
    after.StandsAt delivered (match answer with
      | .error e => .ended (.error (.ofTransport e))
      | .ok () => .carrying message expectsReply) := by
  unfold Session.hand at handed
  split at handed
  · cases handed
    exact (stands.congr rfl rfl).note .refuse
  · cases handed
    exact (stands.congr rfl rfl).note .accept

/-- To wait is to look around, and then to note how the transfer was settled. -/
theorem StandsAt.await (noReply : Bool) (stands : session.StandsAt delivered phase) :
    ∃ waited : Session α β ν, waited.StandsAt delivered phase ∧
      (session.await noReply).2 = waited.note (.settled (session.await noReply).1
        (Agent.reply waited.agent) (Agent.lastError waited.agent)) := by
  refine ⟨_, ?_, rfl⟩
  exact StandsAt.look (stands.look.congr rfl rfl)

theorem StandsAt.attempt {message : Message} {expectsReply : Bool} {attempt : Attempt}
    {after : Session α β ν}
    (stands : session.StandsAt delivered (.sending message expectsReply))
    (attempted : session.attempt delivered message expectsReply = (attempt, after)) :
    after.StandsAt delivered (phaseAfterAttempt message expectsReply attempt) ∧
      ∀ request, attempt = .settled (.ok (.interrupted request)) →
        request = after.handle.request := by
  unfold Session.attempt at attempted
  split at attempted
  · rename_i refused
    cases attempted
    exact ⟨stands.hand refused, by rintro _ ⟨⟩⟩
  · rename_i taken
    -- Whether the transfer is called off or not, the session carries the message.
    have handed := (stands.hand taken).look
    have waits {carrier : Session α β ν}
        (carrying : carrier.StandsAt delivered (.carrying message expectsReply))
        (settled : ((carrier.await (!expectsReply)).2.verdict delivered expectsReply
          (carrier.await (!expectsReply)).1, (carrier.await (!expectsReply)).2) = (attempt, after)) :
        after.StandsAt delivered (phaseAfterAttempt message expectsReply attempt) ∧
          ∀ request, attempt = .settled (.ok (.interrupted request)) →
            request = after.handle.request := by
      obtain ⟨waited, carrying, same⟩ := carrying.await (!expectsReply)
      cases settled
      rw [same]
      exact ⟨carrying.note (waited.move_verdict ..), fun request => Session.request_of_verdict⟩
    dsimp only at attempted
    split at attempted
    · exact waits handed attempted
    · refine waits ?_ attempted
      exact handed.congr rfl rfl

theorem StandsAt.rest {message : Message} {expectsReply taken : Bool} {time : Duration}
    {after : Session α β ν}
    (stands : session.StandsAt delivered (.faltering message expectsReply))
    (rested : session.rest time = (taken, after)) :
    after.StandsAt delivered (if taken then .sending message expectsReply else .interrupted) := by
  have looked := stands.look
  unfold Session.rest at rested
  dsimp only at rested
  split at rested
  · rename_i mayRest
    have unasked : session.look.handle.request = .none := by
      simpa [SessionHandle.mayRest] using mayRest
    cases rested
    refine (looked.congr rfl rfl).note ?_
    rw [unasked]
    exact .pause
  · rename_i mayNotRest
    cases rested
    exact looked.note (.stir (by simpa [SessionHandle.mayRest] using mayNotRest))

theorem StandsAt.transfer {policy : RetryPolicy} {message : Message} {expectsReply : Bool}
    {elapsed : Duration} {result : Except SyncError Exchange} {after : Session α β ν}
    (stands : session.StandsAt delivered (.sending message expectsReply))
    (transferred : session.transfer policy delivered message expectsReply elapsed =
      (result, after)) : after.StandsAfter delivered result := by
  fun_induction Session.transfer policy delivered message expectsReply elapsed session with
  | case1 _ _ _ _ attempted =>
    cases transferred
    obtain ⟨settled, asked⟩ := stands.attempt attempted
    exact ⟨settled, fun request same => asked request (congrArg _ same)⟩
  | case2 _ _ _ _ attempted _ _ _ rested =>
    cases transferred
    refine ⟨(stands.attempt attempted).1.rest rested, ?_⟩
    rintro _ ⟨⟩
    rfl
  | case3 _ _ _ _ attempted _ _ _ rested inductionHypothesis =>
    exact inductionHypothesis (((stands.attempt attempted).1.rest rested).congr rfl rfl) transferred
  | case4 _ _ _ _ attempted =>
    cases transferred
    exact ⟨(stands.attempt attempted).1.note .giveUp, by simp⟩

/-! ## Steps -/

/-- The session is about to tell the engine something: an input, or what interrupted it. -/
def AboutToTell (delivered : SessionRequest) (input : StepInput) (session : Session α β ν) : Prop :=
  session.StandsAt delivered (.ready input) ∨
    (∃ before, session.StandsAt before .interrupted) ∧
      delivered = session.handle.request ∧ input = delivered.input .suspend

/-- What the engine is told next is what it is due, or the request if there is one that it does not
know. -/
theorem AboutToTell.told {input : StepInput} (about : session.AboutToTell delivered input) :
    let (delivered, input) := session.look.nextInput delivered input
    (session.look.note (.told input)).StandsAt delivered .working := by
  simp only [Session.nextInput]
  obtain ready | ⟨⟨before, stands⟩, rfl, rfl⟩ := about
  · split
    · rename_i same
      refine ready.look.note ?_
      rw [same]
      exact .proceed
    · rename_i undelivered
      exact ready.look.note (.preempt undelivered)
  · -- A request that came while the session looked around takes the place of the one before.
    have requested : session.look.handle.request ≠ .none :=
      stands.look.sound.requested rfl
    split
    · rename_i same
      rw [← same]
      exact stands.look.note .interrupt
    · rw [SessionRequest.input_congr requested _ .suspend]
      exact stands.look.note .interrupt

section Steps

variable [Engine χ (Happening β ν)]

omit [Surroundings α (Happening β ν)] in
/-- A step of the engine is its work on the items, and then its answer. -/
theorem StandsAt.tell {input : StepInput} (engine : χ)
    (telling : (session.note (.told input)).StandsAt delivered .working) :
    ∃ stepped : Session α β ν, stepped.StandsAt delivered .working ∧
      (session.tell input engine).2.2 = stepped.note (.answered (session.tell input engine).1) :=
  ⟨_, telling.perform (Engine.step input engine), rfl⟩

/-- However far a session comes, its history is a run, and it has ended if the run is over. -/
theorem AboutToTell.converse (policy : RetryPolicy) (horizon : Nat) (engine : χ) {input : StepInput}
    (about : session.AboutToTell delivered input) :
    ∃ delivered' phase,
      (session.converse policy horizon delivered input engine).2.2.StandsAt delivered' phase ∧
      (session.converse policy horizon delivered input engine).1 = phase.ending? ∧
      phase ≠ .working := by
  induction horizon generalizing delivered input engine session with
  | zero =>
    obtain ready | ⟨⟨before, stands⟩, -⟩ := about
    · exact ⟨_, _, ready, rfl, by simp⟩
    · exact ⟨_, _, stands, rfl, by simp⟩
  | succ horizon inductionHypothesis =>
    have telling := about.told
    rcases told : session.look.nextInput delivered input with ⟨delivered, input⟩
    rw [told] at telling
    obtain ⟨stepped, working, same⟩ := telling.tell engine
    rcases answered : session.look.tell input engine with ⟨answer, engine, after⟩
    rw [answered] at same
    obtain rfl : after = stepped.note (.answered answer) := same
    simp only [Session.converse, told, answered]
    cases answer with
    | error e => exact ⟨_, _, working.note .fail, rfl, by simp⟩
    | ok command =>
      cases command with
      | finish ending => exact ⟨_, _, working.note .finish, rfl, by simp⟩
      | send message expectsReply =>
        dsimp only
        split
        · rename_i aborted
          subst aborted
          exact ⟨_, _, working.note .stop, rfl, by simp⟩
        · rename_i goesOn
          rcases result : (stepped.note (.answered (.ok (.send message expectsReply)))).transfer
            policy delivered message expectsReply 0 with ⟨e | exchange, after⟩
          · exact ⟨_, _, ((working.note (.send goesOn)).transfer result).stands, rfl,
              by simp [phaseAfter]⟩
          · have transferred := (working.note (.send goesOn)).transfer result
            cases exchange with
            | replied reply => exact inductionHypothesis _ (.inl transferred.stands)
            | sent => exact inductionHypothesis _ (.inl transferred.stands)
            | interrupted request =>
              exact inductionHypothesis _
                (.inr ⟨⟨_, transferred.stands⟩, transferred.asked request rfl, rfl⟩)

end Steps

end Session

namespace Synchronizer

variable {α β ν χ υ : Type} [Agent α] [Backend β] [PropertyNode ν]
  [Surroundings α (Happening β ν)] [Engine χ (Happening β ν)]

/-- The history of every session is a run.  If the engine took a step in it, then how the session
ended is how the run did. -/
theorem standsAt_proceed (horizon : Nat) (password : String) (setting : Setting α β ν χ υ) :
    ∃ delivered phase, (proceed horizon password setting).2.2.StandsAt delivered phase ∧
      (history horizon password setting ≠ [] →
        (proceed horizon password setting).1 = phase.ending?) ∧ phase ≠ .working := by
  unfold history
  have begun : (opening setting).AboutToTell .none .start := .inl rfl
  obtain ⟨e, engine, -, proceeded⟩ | ⟨engine, -, proceeded⟩ :=
    proceed_cases horizon password setting
  · rw [proceeded]
    exact ⟨_, _, rfl, fun some => absurd rfl some, by simp⟩
  · rw [proceeded]
    obtain ⟨delivered, phase, stands, ended, rests⟩ :=
      begun.converse setting.synchronizer.config.retry horizon engine
    exact ⟨delivered, phase, stands, fun _ => ended, rests⟩

theorem runs_history (horizon : Nat) (password : String) (setting : Setting α β ν χ υ) :
    ∃ state, Runs {} (history horizon password setting) state :=
  have ⟨_, _, stands, _⟩ := standsAt_proceed horizon password setting
  ⟨_, stands⟩

/-- The history tells what the session is asked to do. -/
theorem request_proceed (horizon : Nat) (password : String) (setting : Setting α β ν χ υ) :
    (proceed horizon password setting).2.2.handle.request =
      pendingAfter (history horizon password setting) :=
  have ⟨_, _, stands, _⟩ := standsAt_proceed horizon password setting
  Runs.pending_eq stands

end Synchronizer

end DataSync
