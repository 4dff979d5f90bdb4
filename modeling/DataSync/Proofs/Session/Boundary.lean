import DataSync.Proofs.Session.History

/-!
# Boundaries of sessions

What the agent of a session is given and what its engine is told.  An agent and an engine that keep
logs of it do what they do without them, and at any time their logs hold what the history of the
session says.  So the events of a history are those that crossed the boundary of the session.
-/

namespace DataSync

open DataSync.Action

/-! ## Logs -/

/-- What an agent does with what it is given. -/
inductive Dealing where
  | took (message : Message)
  | refused (e : TransportError)
  | settled (status : TransportStatus)

/-- An agent with a log of its dealings, the latest one last. -/
structure LoggedAgent (α : Type) where
  agent : α
  /-- The type of the next messages. -/
  contentType : String := ContentType.xml
  log : List Dealing := []

/-- An engine with a log of what it is told and says, the latest of it last. -/
structure LoggedEngine (χ : Type) where
  engine : χ
  log : List SessionEvent := []

namespace SessionEvent

/-- What the agent does. -/
def dealing? : SessionEvent → Option Dealing
  | accepted message => some (.took message)
  | refused e => some (.refused e)
  | settled status _ _ => some (.settled status)
  | _ => none

/-- Whether the engine is told something or says something. -/
def isSpoken : SessionEvent → Bool
  | told _ | answered _ => true
  | _ => false

end SessionEvent

variable {α β ν χ υ η γ : Type}

instance [Agent α] : Agent (LoggedAgent α) where
  setUrl url := (Agent.setUrl url).within (·.agent) fun agent logged => { logged with agent }
  setProxy proxy logged := { logged with agent := Agent.setProxy proxy logged.agent }
  setProxyAuth user password logged :=
    { logged with agent := Agent.setProxyAuth user password logged.agent }
  setContentType contentType logged :=
    { logged with agent := Agent.setContentType contentType logged.agent, contentType }
  setTimeout timeout logged := { logged with agent := Agent.setTimeout timeout logged.agent }
  send data := .of fun logged => match (Agent.send data).on logged.agent with
    | (.ok (), agent) =>
      (.ok (), { logged with agent, log := logged.log ++ [.took ⟨data, logged.contentType⟩] })
    | (.error e, agent) => (.error e, { logged with agent, log := logged.log ++ [.refused e] })
  cancel logged := { logged with agent := Agent.cancel logged.agent }
  shutdown logged := { logged with agent := Agent.shutdown logged.agent }
  wait noReply logged := match (Agent.wait noReply : StateM α _) logged.agent with
    | (status, agent) => (status, { logged with agent, log := logged.log ++ [.settled status] })
  reply logged := Agent.reply logged.agent
  status logged := Agent.status logged.agent
  lastError logged := Agent.lastError logged.agent
  isCancelRequested logged := Agent.isCancelRequested logged.agent
  requestCancel request logged := { logged with agent := Agent.requestCancel request logged.agent }
  waited logged := Agent.waited logged.agent

instance [Surroundings α η] : Surroundings (LoggedAgent α) η where
  happenings logged := match (Surroundings.happenings : StateM α (List η)) logged.agent with
    | (happenings, agent) => (happenings, { logged with agent })

instance [Engine χ η] : Engine (LoggedEngine χ) η where
  begin session offers := (Engine.begin η session offers).within (·.engine)
    fun engine logged => { logged with engine }
  step input logged := (Engine.step input logged.engine).bind fun (answer, engine) =>
    .pure (answer, { engine, log := logged.log ++ [.told input, .answered answer] })

theorem LoggedEngine.on_begin [Engine χ η] (info : SessionInfo) (offers : List SourceOffer)
    (logged : LoggedEngine χ) :
    (Engine.begin η info offers : Action (LoggedEngine χ) SyncError Unit).on logged =
      (((Engine.begin η info offers).on logged.engine).1,
        { logged with engine := ((Engine.begin η info offers).on logged.engine).2 }) := rfl

theorem LoggedEngine.step_eq [Engine χ η] (input : StepInput) (logged : LoggedEngine χ) :
    (Engine.step input logged : ItemProgram η _) =
      (Engine.step input logged.engine).bind fun result => .pure
        (result.1, { engine := result.2, log := logged.log ++ [.told input, .answered result.1] }) :=
  rfl

namespace LoggedAgent

theorem on_send [Agent α] (message : Message) (logged : LoggedAgent α) :
    (Agent.send message.data).on (Agent.setContentType message.contentType logged) =
      match (Agent.send message.data).on
        (Agent.setContentType message.contentType logged.agent) with
      | (.ok (), agent) => (.ok (), ⟨agent, message.contentType, logged.log ++ [.took message]⟩)
      | (.error e, agent) =>
        (.error e, ⟨agent, message.contentType, logged.log ++ [.refused e]⟩) := rfl

theorem wait_eq [Agent α] (noReply : Bool) (logged : LoggedAgent α) :
    (Agent.wait noReply : StateM (LoggedAgent α) _) logged =
      match (Agent.wait noReply : StateM α _) logged.agent with
      | (status, agent) =>
        (status, { logged with agent, log := logged.log ++ [.settled status] }) := rfl

theorem happenings_eq [Surroundings α η] (logged : LoggedAgent α) :
    (Surroundings.happenings : StateM (LoggedAgent α) (List η)) logged =
      match (Surroundings.happenings : StateM α (List η)) logged.agent with
      | (happenings, agent) => (happenings, { logged with agent }) := rfl

end LoggedAgent

/-- The setting whose agent and engine keep logs. -/
def Setting.logged (setting : Setting α β ν χ υ) :
    Setting (LoggedAgent α) β ν (LoggedEngine χ) υ :=
  { setting with agent := { agent := setting.agent }, engine := { engine := setting.engine } }

/-! ## Logs change nothing -/

namespace Session

/-- The session without the log of its agent. -/
def unlogged (session : Session (LoggedAgent α) β ν) : Session α β ν :=
  { session with agent := session.agent.agent }

/-- A session with a logged agent is the plain one, and its history says what the agent did, but for
what it did just now, and what was told to an engine and said by it. -/
structure Logs (words : List SessionEvent) (ahead : List Dealing)
    (logged : Session (LoggedAgent α) β ν) (plain : Session α β ν) : Prop where
  same : logged.unlogged = plain
  dealings : logged.agent.log = plain.history.filterMap SessionEvent.dealing? ++ ahead
  spoken : words = plain.history.filter SessionEvent.isSpoken

/-- What a session does gives the same result with logs and without, and they are right after it. -/
structure Matches (words : List SessionEvent) (recorded : γ × Session (LoggedAgent α) β ν)
    (done : γ × Session α β ν) : Prop where
  result : recorded.1 = done.1
  logs : Logs words [] recorded.2 done.2

variable {words : List SessionEvent} {ahead : List Dealing}
  {logged logged' : Session (LoggedAgent α) β ν} {plain plain' : Session α β ν} {event : SessionEvent}

theorem Logs.note (logs : Logs words ahead logged plain) (silent : event.dealing? = none)
    (unspoken : event.isSpoken = false) :
    Logs words ahead (logged.note event) (plain.note event) where
  same := congrArg (Session.note event) logs.same
  dealings := by simpa [silent] using logs.dealings
  spoken := by simpa [unspoken] using logs.spoken

theorem Logs.noteDealing {dealing : Dealing} (logs : Logs words [dealing] logged plain)
    (dealt : event.dealing? = some dealing) (unspoken : event.isSpoken = false) :
    Logs words [] (logged.note event) (plain.note event) where
  same := congrArg (Session.note event) logs.same
  dealings := by simpa [dealt] using logs.dealings
  spoken := by simpa [unspoken] using logs.spoken

theorem Logs.noteWord (logs : Logs words ahead logged plain) (silent : event.dealing? = none)
    (spoken : event.isSpoken = true) :
    Logs (words ++ [event]) ahead (logged.note event) (plain.note event) where
  same := congrArg (Session.note event) logs.same
  dealings := by simpa [silent] using logs.dealings
  spoken := by simp [spoken, logs.spoken]

theorem Logs.move {dealt : List Dealing} (logs : Logs words [] logged plain)
    (same : logged'.unlogged = plain') (log : logged'.agent.log = logged.agent.log ++ dealt)
    (unnoted : plain'.history = plain.history) : Logs words dealt logged' plain' where
  same := same
  dealings := by rw [log, unnoted, logs.dealings, List.append_nil]
  spoken := by rw [unnoted, logs.spoken]

theorem Logs.congr (logs : Logs words ahead logged plain) (same : logged'.unlogged = plain')
    (log : logged'.agent.log = logged.agent.log) (unnoted : plain'.history = plain.history) :
    Logs words ahead logged' plain' where
  same := same
  dealings := by rw [log, unnoted, logs.dealings]
  spoken := by rw [unnoted, logs.spoken]

theorem Matches.exists_eq {recorded : γ × Session (LoggedAgent α) β ν}
    {done : γ × Session α β ν} {result : γ} (matched : Matches words recorded done)
    (outcome : done = (result, plain)) :
    ∃ logged, recorded = (result, logged) ∧ Logs words [] logged plain := by
  obtain rfl := outcome
  exact ⟨recorded.2, Prod.ext matched.result rfl, matched.logs⟩

/-! ### Happenings -/

variable [Agent α]

theorem Logs.withHandle (logs : Logs words ahead logged plain) (handle : SessionHandle) :
    Logs words ahead (logged.withHandle handle) (plain.withHandle handle) := by
  obtain rfl := logs.same
  have asked : Logs words ahead (logged.note (.asked handle.request))
      (logged.unlogged.note (.asked handle.request)) := logs.note rfl rfl
  unfold Session.withHandle
  rw [show logged.unlogged.handle = logged.handle from rfl]
  dsimp only
  by_cases again : handle.request = logged.handle.request
  · rw [if_pos again, if_pos again]
    split <;> exact logs.congr rfl rfl rfl
  · rw [if_neg again, if_neg again]
    split <;> exact asked.congr rfl rfl rfl

variable [Backend β] [PropertyNode ν]

theorem Logs.meet (logs : Logs words ahead logged plain) (happening : Happening β ν) :
    Logs words ahead (logged.meet happening) (plain.meet happening) := by
  obtain rfl := logs.same
  cases happening with
  | disturbance change => exact logs.congr rfl rfl rfl
  | _ => exact logs.withHandle _

theorem Logs.foldl_meet (logs : Logs words ahead logged plain)
    (happenings : List (Happening β ν)) :
    Logs words ahead (happenings.foldl Session.meet logged)
      (happenings.foldl Session.meet plain) := by
  induction happenings generalizing logged plain with
  | nil => exact logs
  | cons happening rest inductionHypothesis => exact inductionHypothesis (logs.meet happening)

theorem Logs.perform (logs : Logs words [] logged plain)
    (program : ItemProgram (Happening β ν) γ) :
    Matches words (logged.perform program) (plain.perform program) := by
  induction program generalizing logged plain with
  | pure result => exact ⟨rfl, logs⟩
  | read source luid next inductionHypothesis =>
    obtain rfl := logs.same
    exact inductionHypothesis _ (logs.congr rfl rfl rfl)
  | insert source luid content next inductionHypothesis =>
    obtain rfl := logs.same
    exact inductionHypothesis _ (logs.congr rfl rfl rfl)
  | delete source luid next inductionHypothesis =>
    obtain rfl := logs.same
    exact inductionHypothesis _ (logs.congr rfl rfl rfl)
  | meanwhile happening next inductionHypothesis => exact inductionHypothesis (logs.meet happening)

/-- Work is done like the same work with another result. -/
theorem perform_bind_pure {δ : Type} (program : ItemProgram (Happening β ν) γ) (f : γ → δ)
    (session : Session α β ν) :
    session.perform (program.bind fun result => .pure (f result)) =
      (f (session.perform program).1, (session.perform program).2) := by
  induction program generalizing session with
  | pure result => rfl
  | read source luid next inductionHypothesis => exact inductionHypothesis _ _
  | insert source luid content next inductionHypothesis => exact inductionHypothesis _ _
  | delete source luid next inductionHypothesis => exact inductionHypothesis _ _
  | meanwhile happening next inductionHypothesis => exact inductionHypothesis _

variable [Surroundings α (Happening β ν)]

theorem Logs.look (logs : Logs words ahead logged plain) :
    Logs words ahead logged.look plain.look := by
  obtain rfl := logs.same
  unfold Session.look
  rw [LoggedAgent.happenings_eq, show logged.unlogged.agent = logged.agent.agent from rfl]
  rcases (Surroundings.happenings : StateM α (List (Happening β ν))) logged.agent.agent with
    ⟨happenings, agent⟩
  have moved : Logs words ahead { logged with agent := { logged.agent with agent } }
      { logged.unlogged with agent } := logs.congr rfl rfl rfl
  exact moved.foldl_meet happenings

/-! ### Transfers -/

omit [Backend β] [PropertyNode ν] [Surroundings α (Happening β ν)] in
/-- The agent is given the type of a message and its data, and knows them as one. -/
theorem Logs.hand (logs : Logs words [] logged plain) (message : Message) :
    Matches words (logged.hand message) (plain.hand message) := by
  obtain rfl := logs.same
  unfold Session.hand
  rw [LoggedAgent.on_send, show logged.unlogged.agent = logged.agent.agent from rfl]
  rcases (Agent.send message.data).on
    (Agent.setContentType message.contentType logged.agent.agent) with ⟨e | ⟨⟩, agent⟩
  · have refused : Logs words [.refused e]
        { logged with agent := ⟨agent, message.contentType, logged.agent.log ++ [.refused e]⟩ }
        { logged.unlogged with agent } := logs.move rfl rfl rfl
    exact ⟨rfl, refused.noteDealing rfl rfl⟩
  · have taken : Logs words [.took message]
        { logged with
          agent := ⟨agent, message.contentType, logged.agent.log ++ [.took message]⟩
          messagesSent := logged.messagesSent + 1 }
        { logged.unlogged with agent, messagesSent := logged.messagesSent + 1 } :=
      logs.move rfl rfl rfl
    exact ⟨rfl, taken.noteDealing rfl rfl⟩

omit [Backend β] [PropertyNode ν] [Surroundings α (Happening β ν)] in
theorem Logs.noteSettled {status : TransportStatus}
    (logs : Logs words [.settled status] logged plain) :
    Logs words []
      (logged.note (.settled status (Agent.reply logged.agent) (Agent.lastError logged.agent)))
      (plain.note (.settled status (Agent.reply plain.agent) (Agent.lastError plain.agent))) := by
  obtain rfl := logs.same
  exact logs.noteDealing rfl rfl

theorem Logs.await (logs : Logs words [] logged plain) (noReply : Bool) :
    Matches words (logged.await noReply) (plain.await noReply) := by
  have looked := logs.look
  have same := looked.same
  unfold Session.await
  dsimp only
  rw [LoggedAgent.wait_eq, ← same, show logged.look.unlogged.agent = logged.look.agent.agent from rfl]
  rcases (Agent.wait noReply : StateM α _) logged.look.agent.agent with ⟨status, agent⟩
  -- The agent has settled the message, but the session looks around before it notes that.
  have waited : Logs words [.settled status]
      { logged.look with
        agent := ⟨agent, logged.look.agent.contentType, logged.look.agent.log ++ [.settled status]⟩
        clock := logged.look.clock +
          max (Agent.waited agent - Agent.waited logged.look.agent.agent) 1 }
      { logged.look.unlogged with
        agent
        clock := logged.look.clock +
          max (Agent.waited agent - Agent.waited logged.look.agent.agent) 1 } := by
    rw [← same] at looked
    exact looked.move rfl rfl rfl
  exact ⟨rfl, waited.look.noteSettled⟩

omit [Backend β] [PropertyNode ν] [Surroundings α (Happening β ν)] in
theorem Logs.recall (logs : Logs words [] logged plain) (delivered : SessionRequest) :
    Logs words []
      (if logged.handle.request = delivered then logged
        else { logged with agent := Agent.cancel logged.agent })
      (if plain.handle.request = delivered then plain
        else { plain with agent := Agent.cancel plain.agent }) := by
  obtain rfl := logs.same
  rw [show logged.unlogged.handle = logged.handle from rfl]
  split
  · exact logs
  · exact logs.congr rfl rfl rfl

omit [Backend β] [PropertyNode ν] [Surroundings α (Happening β ν)] in
theorem verdict_unlogged (logged : Session (LoggedAgent α) β ν) (delivered : SessionRequest)
    (expectsReply : Bool) (status : TransportStatus) :
    logged.verdict delivered expectsReply status =
      logged.unlogged.verdict delivered expectsReply status := by
  cases status <;> rfl

theorem Logs.attempt (logs : Logs words [] logged plain) (delivered : SessionRequest)
    (message : Message) (expectsReply : Bool) :
    Matches words (logged.attempt delivered message expectsReply)
      (plain.attempt delivered message expectsReply) := by
  have handed := logs.hand message
  unfold Session.attempt
  generalize logged.hand message = recorded at handed ⊢
  generalize plain.hand message = done at handed ⊢
  obtain ⟨result, logged⟩ := recorded
  obtain ⟨_, plain⟩ := done
  obtain ⟨rfl, logs⟩ := handed
  cases result with
  | error e => exact ⟨rfl, logs⟩
  | ok taken =>
    obtain ⟨status, logs⟩ := (logs.look.recall delivered).await (!expectsReply)
    refine ⟨?_, logs⟩
    dsimp only
    rw [verdict_unlogged, status, logs.same]

theorem Logs.rest (logs : Logs words [] logged plain) (time : Duration) :
    Matches words (logged.rest time) (plain.rest time) := by
  have looked : Logs words [] logged.look plain.look := logs.look
  have same := looked.same
  unfold Session.rest
  dsimp only
  rw [← same] at looked ⊢
  rw [show logged.look.unlogged.handle = logged.look.handle from rfl]
  split
  · have paused : Logs words [] { logged.look with clock := logged.look.clock + time }
        { logged.look.unlogged with clock := logged.look.clock + time } := looked.congr rfl rfl rfl
    exact ⟨rfl, paused.note rfl rfl⟩
  · exact ⟨rfl, looked.note rfl rfl⟩

theorem Logs.failed {reason : String} {tried : Session α β ν} {delivered : SessionRequest}
    {message : Message} {expectsReply : Bool} (logs : Logs words [] logged plain)
    (failed : plain.attempt delivered message expectsReply = (.failed reason, tried)) :
    ∃ loggedTried, logged.attempt delivered message expectsReply = (.failed reason, loggedTried) ∧
      Logs words [] loggedTried tried ∧
      max (loggedTried.clock - logged.clock) 1 = max (tried.clock - plain.clock) 1 := by
  obtain ⟨loggedTried, recorded, tries⟩ :=
    (logs.attempt delivered message expectsReply).exists_eq failed
  refine ⟨loggedTried, recorded, tries, ?_⟩
  rw [← logs.same, ← tries.same]
  rfl

theorem Logs.transfer (logs : Logs words [] logged plain) (policy : RetryPolicy)
    (delivered : SessionRequest) (message : Message) (expectsReply : Bool) (elapsed : Duration) :
    Matches words (logged.transfer policy delivered message expectsReply elapsed)
      (plain.transfer policy delivered message expectsReply elapsed) := by
  -- With logs an attempt takes the same time, so that the policy allows the same repetitions.
  fun_induction Session.transfer policy delivered message expectsReply elapsed plain
    generalizing logged with
  | case1 elapsed plain result after settled =>
    obtain ⟨loggedAfter, recorded, logs⟩ :=
      (logs.attempt delivered message expectsReply).exists_eq settled
    rw [Session.transfer, recorded]
    exact ⟨rfl, logs⟩
  | case2 elapsed plain reason tried failed time allowed after =>
    rename_i rested
    obtain ⟨loggedTried, recorded, tries, spent⟩ := logs.failed failed
    obtain ⟨loggedAfter, paused, rests⟩ := (tries.rest (policy.delay time)).exists_eq rested
    rw [Session.transfer, recorded]
    dsimp only
    rw [spent, dif_pos allowed, paused]
    obtain rfl := rests.same
    exact ⟨rfl, rests⟩
  | case3 elapsed plain reason tried failed time allowed after rested =>
    rename_i inductionHypothesis
    obtain ⟨loggedTried, recorded, tries, spent⟩ := logs.failed failed
    obtain ⟨loggedAfter, paused, rests⟩ := (tries.rest (policy.delay time)).exists_eq rested
    rw [Session.transfer, recorded]
    dsimp only
    rw [spent, dif_pos allowed, paused]
    obtain rfl := rests.same
    exact inductionHypothesis (rests.congr rfl rfl rfl)
  | case4 elapsed plain reason tried failed time forbidden =>
    obtain ⟨loggedTried, recorded, tries, spent⟩ := logs.failed failed
    rw [Session.transfer, recorded]
    dsimp only
    rw [spent, dif_neg forbidden]
    exact ⟨rfl, tries.note rfl rfl⟩

/-! ### Steps -/

variable [Engine χ (Happening β ν)]

omit [Surroundings α (Happening β ν)] in
/-- The log of an engine grows by what it is told and by what it says. -/
theorem Logs.tell {engine after : χ} {input : StepInput} {answer : Except SyncError StepCommand}
    (logs : Logs words [] logged plain) (told : plain.tell input engine = (answer, after, plain')) :
    let words' := words ++ [.told input, .answered answer]
    ∃ logged', logged.tell input ({ engine, log := words } : LoggedEngine χ) =
        (answer, { engine := after, log := words' }, logged') ∧ Logs words' [] logged' plain' := by
  have begun : Logs (words ++ [.told input]) [] (logged.note (.told input))
      (plain.note (.told input)) := logs.noteWord rfl rfl
  unfold Session.tell at told ⊢
  rcases worked : (plain.note (.told input)).perform (Engine.step input engine) with
    ⟨⟨answer', engine'⟩, plainAfter⟩
  obtain ⟨loggedAfter, performed, ends⟩ := (begun.perform (Engine.step input engine)).exists_eq worked
  rw [worked] at told
  cases told
  refine ⟨loggedAfter.note (.answered answer), ?_, ?_⟩
  · rw [LoggedEngine.step_eq, perform_bind_pure, performed]
  · have said : Logs (words ++ [.told input] ++ [.answered answer]) []
        (loggedAfter.note (.answered answer)) (plainAfter.note (.answered answer)) :=
      ends.noteWord rfl rfl
    rw [List.append_assoc] at said
    exact said

theorem Logs.converse (logs : Logs words [] logged plain) (policy : RetryPolicy) (horizon : Nat)
    (delivered : SessionRequest) (input : StepInput) (engine : χ) :
    ∃ words' logged', logged.converse policy horizon delivered input
          ({ engine, log := words } : LoggedEngine χ) =
        ((plain.converse policy horizon delivered input engine).1,
          { engine := (plain.converse policy horizon delivered input engine).2.1, log := words' },
          logged') ∧
      Logs words' [] logged' (plain.converse policy horizon delivered input engine).2.2 := by
  induction horizon generalizing words logged plain delivered input engine with
  | zero => exact ⟨words, logged, rfl, logs⟩
  | succ horizon inductionHypothesis =>
    have looked : Logs words [] logged.look plain.look := logs.look
    have next : logged.look.nextInput delivered input = plain.look.nextInput delivered input := by
      rw [← looked.same]
      rfl
    rcases inputs : plain.look.nextInput delivered input with ⟨delivered, input⟩
    rcases told : plain.look.tell input engine with ⟨answer, engine, plainTold⟩
    obtain ⟨loggedTold, recorded, tells⟩ := looked.tell told
    -- Both sessions know the answer of the engine now, and end or go on accordingly.
    simp only [Session.converse, next, inputs, told, recorded]
    cases answer with
    | error e => exact ⟨_, loggedTold, rfl, tells⟩
    | ok command =>
      cases command with
      | finish ending => exact ⟨_, loggedTold, rfl, tells⟩
      | send message expectsReply =>
        dsimp only
        split
        · exact ⟨_, loggedTold, rfl, tells⟩
        · have transferred := tells.transfer policy delivered message expectsReply 0
          rcases outcome : plainTold.transfer policy delivered message expectsReply 0 with
            ⟨e | exchange, plainAfter⟩
          · obtain ⟨loggedAfter, carried, carries⟩ := transferred.exists_eq outcome
            rw [carried]
            exact ⟨_, loggedAfter, rfl, carries⟩
          · obtain ⟨loggedAfter, carried, carries⟩ := transferred.exists_eq outcome
            rw [carried]
            cases exchange with
            | _ => exact inductionHypothesis carries _ _ _

end Session

namespace Synchronizer

variable [Agent α] [Backend β] [PropertyNode ν] [Surroundings α (Happening β ν)]
  [Engine χ (Happening β ν)]

theorem logs_proceed (horizon : Nat) (password : String) (setting : Setting α β ν χ υ) :
    ∃ words logged, proceed horizon password setting.logged =
        ((proceed horizon password setting).1,
          { engine := (proceed horizon password setting).2.1, log := words }, logged) ∧
      Session.Logs words [] logged (proceed horizon password setting).2.2 := by
  have begun : Session.Logs [] [] (opening setting.logged) (opening setting) := ⟨rfl, rfl, rfl⟩
  simp only [proceed, converse, Setting.logged, LoggedEngine.on_begin]
  rcases (Engine.begin (Happening β ν) (sessionInfo setting.synchronizer.config password)
    (SessionItems.beginAll setting.synchronizer.config .empty [] setting.sources).2).on
    setting.engine with ⟨e | ⟨⟩, engine⟩
  · exact ⟨[], opening setting.logged, rfl, begun⟩
  · exact begun.converse _ _ _ _ engine

/-- Logs change nothing in a session.  When it ends, or after any number of steps of its engine, they
hold what its history says: what the engine was told and said, and what the agent did with what it was
given. -/
theorem logs_eq_history (horizon : Nat) (password : String) (setting : Setting α β ν χ υ) :
    ∃ ending engine session,
      proceed horizon password setting.logged = (ending, engine, session) ∧
      proceed horizon password setting = (ending, engine.engine, session.unlogged) ∧
      engine.log = (history horizon password setting).filter SessionEvent.isSpoken ∧
      session.agent.log = (history horizon password setting).filterMap SessionEvent.dealing? := by
  obtain ⟨words, logged, recorded, logs⟩ := logs_proceed horizon password setting
  refine ⟨_, _, logged, recorded, ?_, logs.spoken, ?_⟩
  · rw [logs.same]
  · rw [logs.dealings, List.append_nil]
    rfl

end Synchronizer

end DataSync
