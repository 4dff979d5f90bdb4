import DataSync.Session.Event
import DataSync.Session.Items
import DataSync.Session.Retry
import DataSync.Transport.Agent

/-!
# The exchange of messages

A session lets the engine take one step after the other and carries the messages that it wants to
send.  A transfer that failed in a way that may pass is repeated while the retry policy allows it.  A
request to suspend or to abort takes the place of whatever the engine would have been told next, and
is told once; after an abort nothing is sent any more.

Time is counted by what the agent and the pauses take, and an attempt takes at least one unit of it,
so that the repetitions come to an end.  What is said to the engine and to the agent, and by them, is
noted where it is said; nothing that a session does depends on these notes.
-/

namespace DataSync

/-- A session that exchanges messages. -/
structure Session (α β ν : Type) where
  agent : α
  items : SessionItems β ν
  handle : SessionHandle := {}
  /-- The time since the session began. -/
  clock : Duration := 0
  messagesSent : Nat := 0
  retries : Nat := 0
  /-- What was observed of the session, the latest event last. -/
  history : List SessionEvent := []

/-- What became of a message. -/
inductive Exchange where
  | replied (message : Message)
  | sent
  | interrupted (request : SessionRequest)
deriving DecidableEq

/-- How one attempt to transfer a message went. -/
inductive Attempt where
  | settled (result : Except SyncError Exchange)
  /-- It failed, but another one may succeed. -/
  | failed (reason : String)

/-- What the engine is told: the request if there is one. -/
def SessionRequest.input (request : SessionRequest) (otherwise : StepInput) : StepInput :=
  match request with
  | none => otherwise
  | suspend => .suspend
  | abort => .abort

namespace Session

variable {α β ν χ γ : Type} [Agent α] [Backend β] [PropertyNode ν]

/-- The session with one more event in its history. -/
def note (event : SessionEvent) (session : Session α β ν) : Session α β ν :=
  { session with history := session.history ++ [event] }

/-! ## Happenings -/

/-- The session whose handle was changed; a new request calls off the transfer under way. -/
def withHandle (handle : SessionHandle) (session : Session α β ν) : Session α β ν :=
  let asked :=
    if handle.request = session.handle.request then session else session.note (.asked handle.request)
  if handle.callsOff then
    { asked with
      handle := { handle with callsOff := false }
      agent := Agent.requestCancel true session.agent }
  else { asked with handle }

/-- The session after something happened around it. -/
def meet (session : Session α β ν) : Happening β ν → Session α β ν
  | .suspend => session.withHandle (session.handle.ask .suspend)
  | .abort => session.withHandle (session.handle.ask .abort)
  | .interrupt => session.withHandle (session.handle.interrupt session.clock)
  | .disturbance change => { session with items := session.items.disturb change }

/-- The session after all that happened since it looked around before. -/
def look [Surroundings α (Happening β ν)] (session : Session α β ν) : Session α β ν :=
  match (Surroundings.happenings : StateM α (List (Happening β ν))) session.agent with
  | (happenings, agent) => happenings.foldl meet { session with agent }

/-- Do the work of an engine on the items. -/
def perform : ItemProgram (Happening β ν) γ → Session α β ν → γ × Session α β ν
  | .pure result, session => (result, session)
  | .read source luid next, session =>
    match (SessionItems.readItem source luid).on session.items with
    | (answer, items) => perform (next answer) { session with items }
  | .insert source luid content next, session =>
    match (SessionItems.insertItem source luid content).on session.items with
    | (answer, items) => perform (next answer) { session with items }
  | .delete source luid next, session =>
    match (SessionItems.deleteItem source luid).on session.items with
    | (answer, items) => perform (next answer) { session with items }
  | .meanwhile happening next, session => perform next (session.meet happening)

/-! ## Transfers -/

variable [Surroundings α (Happening β ν)]

/-- What a status of the agent after a transfer means, when a request was delivered before. -/
def verdict (delivered : SessionRequest) (expectsReply : Bool) (session : Session α β ν) :
    TransportStatus → Attempt
  | .gotReply =>
    match Agent.reply session.agent with
    | .ok reply => .settled (.ok (.replied reply))
    | .error e => .settled (.error (.ofTransport e))
  | .inactive =>
    if expectsReply then unexpected .inactive else .settled (.ok .sent)
  | .canceled =>
    if session.handle.request ≠ delivered then
      .settled (.ok (.interrupted session.handle.request))
    else .settled (.error (.lostTransport TransportError.canceled.message))
  | .timeOut => .failed TransportError.timeout.message
  | .failed =>
    match Agent.lastError session.agent with
    | some e =>
      if e.isRetryable then .failed e.message
      else .settled (.error (.lostTransport e.message))
    | none => .failed "transport failed"
  | .active => unexpected .active
  | .closed => unexpected .closed
where
  unexpected (status : TransportStatus) : Attempt :=
    .settled (.error (.lostTransport ("unexpected transport status " ++ status.name)))

/-- Give the agent a message. -/
def hand (message : Message) (session : Session α β ν) :
    Except TransportError Unit × Session α β ν :=
  match (Agent.send message.data).on (Agent.setContentType message.contentType session.agent) with
  | (.error e, agent) => (.error e, { session with agent }.note (.refused e))
  | (.ok (), agent) =>
    (.ok (), { session with agent, messagesSent := session.messagesSent + 1 }.note (.accepted message))

/-- Wait until the message under way is settled. -/
def await (noReply : Bool) (session : Session α β ν) : TransportStatus × Session α β ν :=
  let session := session.look
  match (Agent.wait noReply : StateM α _) session.agent with
  | (status, agent) =>
    let time := Agent.waited agent - Agent.waited session.agent
    let session := { session with agent, clock := session.clock + max time 1 }.look
    let agent := session.agent
    (status, session.note (.settled status (Agent.reply agent) (Agent.lastError agent)))

/-- Try once to transfer a message. -/
def attempt (delivered : SessionRequest) (message : Message) (expectsReply : Bool)
    (session : Session α β ν) : Attempt × Session α β ν :=
  match session.hand message with
  | (.error e, session) => (.settled (.error (.ofTransport e)), session)
  | (.ok (), session) =>
    let session := session.look
    let session :=
      if session.handle.request = delivered then session
      else { session with agent := Agent.cancel session.agent }
    let (status, session) := session.await (!expectsReply)
    (session.verdict delivered expectsReply status, session)

/-- Pause for some time, unless there is a request.  The answer is whether the pause was taken. -/
def rest (time : Duration) (session : Session α β ν) : Bool × Session α β ν :=
  let session := session.look
  if session.handle.mayRest then
    (true, { session with clock := session.clock + time }.note (.paused true))
  else (false, session.note (.paused false))

/-- Transfer a message that was sent first some time ago, in as many attempts as it takes and the
policy allows. -/
def transfer (policy : RetryPolicy) (delivered : SessionRequest) (message : Message)
    (expectsReply : Bool) (elapsed : Duration) (session : Session α β ν) :
    Except SyncError Exchange × Session α β ν :=
  match session.attempt delivered message expectsReply with
  | (.settled result, session) => (result, session)
  | (.failed reason, tried) =>
    let time := max (tried.clock - session.clock) 1
    if _allowed : policy.allowsRetry (elapsed + time) then
      match tried.rest (policy.delay time) with
      | (false, session) => (.ok (.interrupted session.handle.request), session)
      | (true, session) =>
        transfer policy delivered message expectsReply (elapsed + time + policy.delay time)
          { session with retries := session.retries + 1 }
    else
      let seconds := toString (Duration.seconds (elapsed + time))
      let e : SyncError := .lostTransport (reason ++ ", gave up after " ++ seconds ++ "s")
      (.error e, tried.note (.gaveUp e))
termination_by policy.budget - elapsed
decreasing_by exact RetryPolicy.budget_sub_lt (Nat.le_max_right _ _) (by assumption)

/-! ## Steps -/

/-- The request that counts as delivered when the engine takes its next step, and what it is told. -/
def nextInput (delivered : SessionRequest) (input : StepInput) (session : Session α β ν) :
    SessionRequest × StepInput :=
  let request := session.handle.request
  if request = delivered then (delivered, input) else (request, request.input input)

/-- Let the engine take a step. -/
def tell [Engine χ (Happening β ν)] (input : StepInput) (engine : χ) (session : Session α β ν) :
    Except SyncError StepCommand × χ × Session α β ν :=
  match (session.note (.told input)).perform (Engine.step input engine) with
  | ((answer, engine), session) => (answer, engine, session.note (.answered answer))

/-- Let the engine take its steps until the session ends.  A session that goes on after a number of them
is left there, without an ending. -/
def converse [Engine χ (Happening β ν)] (policy : RetryPolicy) : (horizon : Nat) →
    SessionRequest → StepInput → χ → Session α β ν →
    Option (Except SyncError SessionEnd) × χ × Session α β ν
  | 0, _, _, engine, session => (none, engine, session)
  | horizon + 1, delivered, input, engine, session =>
    let session := session.look
    let (delivered, input) := session.nextInput delivered input
    let (answer, engine, session) := session.tell input engine
    match answer with
    | .error e => (some (.error e), engine, session)
    | .ok (.finish ending) => (some (.ok ending), engine, session)
    | .ok (.send message expectsReply) =>
      if delivered = .abort then (some (.ok .aborted), engine, session)
      else match session.transfer policy delivered message expectsReply 0 with
        | (.error e, session) => (some (.error e), engine, session)
        | (.ok (.replied reply), session) =>
          converse policy horizon delivered (.reply reply) engine session
        | (.ok .sent, session) => converse policy horizon delivered .sent engine session
        | (.ok (.interrupted request), session) =>
          converse policy horizon request (request.input .suspend) engine session

end Session

end DataSync
