import DataSync.Proofs.Local.Watched
import DataSync.Rehearsal.ScriptedChild

/-!
# Questions of a child

Before a child answers a message it may ask for passwords, have some kept, and report.  It gets one
answer for each question, in their order, and the answer is that of the person at the machine.  How the
exchange ends follows from what the child says last, and if it says nothing any more, from its latest
report and its exit code.
-/

namespace DataSync.Local

open DataSync.Action

/-- A machine with a child and a person at it who meet in an agent only. -/
structure Attended (κ υ : Type) where
  child : κ
  user : υ

variable {κ υ : Type}

namespace Attended

variable [Machine κ] [UserInterface υ]

instance : Peer (Attended κ υ) where
  react octets := (Peer.react octets).within (·.child) fun child attended => { attended with child }
  stamina attended := Peer.stamina attended.child

instance : UserInterface (Attended κ υ) where
  askPassword name description key attended :=
    match UserInterface.askPassword name description key attended.user with
    | (password, user) => (password, { attended with user })
  savePassword name password key attended :=
    match UserInterface.savePassword name password key attended.user with
    | (saved, user) => (saved, { attended with user })

instance : Machine (Attended κ υ) where
  spawn := Machine.spawn.within (·.child) fun child attended => { attended with child }
  hangUp attended := match Machine.hangUp attended.child with
    | (reaction, child) => (reaction, { attended with child })
  kill attended := { attended with child := Machine.kill attended.child }
  reap := Machine.reap.within (·.child) fun child attended => { attended with child }

end Attended

/-! ## What a child says -/

def ChildMessage.isRequest : ChildMessage → Bool
  | askPassword .. | savePassword .. => true
  | _ => false

def ChildMessage.report? : ChildMessage → Option ChildReport
  | .report given => some given
  | _ => none

def lastReport? (said : List ChildMessage) : Option ChildReport :=
  (said.filterMap ChildMessage.report?).getLast?

/-- The answers of a person to what a child says, one for each question. -/
def responses [UserInterface υ] : List ChildMessage → StateM υ (List ParentMessage)
  | [] => pure []
  | .askPassword name description key :: said => do
    let password ← UserInterface.askPassword name description key
    return .passwordResponse password :: (← responses said)
  | .savePassword name password key :: said => do
    let saved ← UserInterface.savePassword name password key
    return .savePasswordResponse saved :: (← responses said)
  | _ :: said => responses said

/-- How a child ends an exchange: with an answer, with a message that is out of place, or by saying
nothing any more, when waiting for its end gives something. -/
inductive Ending where
  | reply (message : Message)
  | ready
  | silence (exit : Except Interruption (Option Int))

namespace Ending

def message? : Ending → Option ChildMessage
  | reply message => some (.reply message)
  | ready => some .ready
  | silence _ => none

/-- What comes of the exchange, given the latest report. -/
def result (report : Option ChildReport) : Ending → Except Interruption Message
  | reply message => .ok message
  | ready => .error (disorder "unexpected Ready from child")
  | silence exit =>
    match report.filter (!·.isSuccess) with
    | some report => .error (.failed (.childReport report.status.toNat (report.error.getD "")))
    | none => exit >>= fun code =>
        .error (Link.childFailed ("child exited with " ++ exitText code ++ " without replying"))

end Ending

/-- The next message of the child at the other end of a wire. -/
abbrev hearing : Action (Wire κ) Interruption (Option ChildMessage) :=
  Wire.reading Frame.receive

/-- Over a wire a child says something, if its questions are answered like this, and then ends the
exchange. -/
inductive Speaks [Machine κ] (ending : Ending) :
    List ChildMessage → List ParentMessage → Wire κ → Prop
  | ends {wire after : Wire κ} (heard : hearing.on wire = (.ok ending.message?, after))
      (exits : ∀ exit, ending = .silence exit → (Machine.reap.on after.peer).1 = exit) :
      Speaks ending [] [] wire
  | reports {report : ChildReport} {said : List ChildMessage} {told : List ParentMessage}
      {wire between : Wire κ} (heard : hearing.on wire = (.ok (some (.report report)), between))
      (later : Speaks ending said told between) : Speaks ending (.report report :: said) told wire
  | asks {request : ChildMessage} {response : ParentMessage} {said : List ChildMessage}
      {told : List ParentMessage} {wire between after : Wire κ} (isRequest : request.isRequest = true)
      (heard : hearing.on wire = (.ok (some request), between))
      (answered : (Frame.send response).on between = (.ok (), after))
      (later : Speaks ending said told after) : Speaks ending (request :: said) (response :: told) wire

/-! ## Scripted children -/

theorem Frame.length_le_of_encodeAll {μ : Type} [Framed μ] {messages : List μ} {octets : Bytes}
    (encoded : encodeAll messages = .ok octets) : messages.length ≤ octets.length := by
  induction messages generalizing octets with
  | nil => exact Nat.zero_le _
  | cons message more inductionHypothesis =>
    obtain ⟨first, others, encodedFirst, encodedOthers, rfl⟩ := encodeAll_cons_eq_ok.1 encoded
    obtain ⟨-, rfl⟩ := encode_eq_ok.1 encodedFirst
    have later := inductionHypothesis encodedOthers
    rw [List.length_cons, List.length_append, List.length_append, length_ofLong]
    omega

theorem exists_send_scripted {child : ScriptedChild} (sound : child.broken = false)
    {message : ParentMessage} {octets : Bytes} (encoded : Frame.encode message = .ok octets)
    (inbox : Inbox) : ∃ after, (Frame.send message).on { peer := child, inbox } =
      (.ok (), { peer := after, inbox }) ∧ after.broken = false ∧ after.exit = child.exit := by
  have reacted : ∃ after, (Peer.react octets).on child = (.ok {}, after) ∧ after.broken = false ∧
      after.exit = child.exit := by
    simp only [Peer.react, on_of, sound, Bool.false_eq_true, if_false]
    split
    · exact ⟨_, rfl, rfl, rfl⟩
    · exact ⟨_, rfl, sound, rfl⟩
  obtain ⟨after, reacted, same⟩ := reacted
  exact ⟨after, by simp [Frame.send, encoded, Wire.send, reacted, Inbox.receive], same⟩

theorem on_hearing {message : ChildMessage} {octets : Bytes}
    (encoded : Frame.encode message = .ok octets) (child : κ) (rest : Bytes) (ended : Bool) :
    hearing.on { peer := child, inbox := { unread := octets ++ rest, ended } } =
      (.ok (some message), { peer := child, inbox := { unread := rest, ended } }) := by
  simp [Wire.reading, on_within, Frame.on_receive encoded]

/-- A child that said all in advance and can be written to, over a wire that ends after what it said. -/
theorem speaks_scripted [UserInterface υ] {ending : Ending} {said : List ChildMessage} {user : υ}
    {child : ScriptedChild} {octets : Bytes} (sound : child.broken = false)
    (proper : ∀ message ∈ said, message.isRequest = true ∨ message.report?.isSome = true)
    (writable : ∀ response ∈ (responses said user).1, ∃ octets, Frame.encode response = .ok octets)
    (exits : ∀ exit, ending = .silence exit → child.exit = exit)
    (encoded : Frame.encodeAll (said ++ ending.message?.toList) = .ok octets) :
    Speaks ending said (responses said user).1
      { peer := child, inbox := { unread := octets, ended := true } } := by
  induction said generalizing user child octets with
  | nil =>
    have heard : hearing.on { peer := child, inbox := { unread := octets, ended := true } } =
        (.ok ending.message?, { peer := child, inbox := { ended := true } }) := by
      cases last : ending.message? with
      | some message =>
        rw [last] at encoded
        obtain ⟨first, _, encodedFirst, ⟨⟩, rfl⟩ := Frame.encodeAll_cons_eq_ok.1 encoded
        exact on_hearing encodedFirst child [] true
      | none =>
        rw [last] at encoded
        cases encoded
        simp [Wire.reading, on_within, Frame.on_receive_at_end]
    exact .ends heard exits
  | cons message more inductionHypothesis =>
    obtain ⟨first, others, encodedFirst, encodedOthers, rfl⟩ := Frame.encodeAll_cons_eq_ok.1 encoded
    obtain ⟨proper, othersProper⟩ := List.forall_mem_cons.1 proper
    have heard := on_hearing encodedFirst child others true
    -- All is in the inbox already, so that an answer finds the child ready whenever it comes.
    cases message with
    | report report =>
      exact .reports heard (inductionHypothesis sound othersProper writable exits encodedOthers)
    | askPassword | savePassword =>
      obtain ⟨⟨frame, encodedFrame⟩, othersWritable⟩ := List.forall_mem_cons.1 writable
      obtain ⟨after, sent, stillSound, sameExit⟩ := exists_send_scripted sound encodedFrame _
      exact .asks rfl heard sent (inductionHypothesis stillSound othersProper othersWritable
        (fun exit same => sameExit.trans (exits exit same)) encodedOthers)
    | ready | reply => simp [ChildMessage.isRequest, ChildMessage.report?] at proper

/-! ## Links -/

namespace Link

/-- A link to the child at the other end of a wire. -/
def rewired (wire : Wire κ) (link : Link (Watched (Attended κ υ))) : Link (Watched (Attended κ υ)) :=
  { link with
    pipe := some wire.inbox
    machine := { link.machine with machine := { link.machine.machine with child := wire.peer } } }

def wrote (octets : Bytes) (link : Link (Watched (Attended κ υ))) : Link (Watched (Attended κ υ)) :=
  { link with machine := { link.machine with written := link.machine.written ++ [octets] } }

def withUser (user : υ) (link : Link (Watched (Attended κ υ))) : Link (Watched (Attended κ υ)) :=
  { link with machine := { link.machine with machine := { link.machine.machine with user } } }

def withReport (report : ChildReport) (link : Link (Watched (Attended κ υ))) :
    Link (Watched (Attended κ υ)) :=
  { link with report := some report }

def user (link : Link (Watched (Attended κ υ))) : υ :=
  link.machine.machine.user

variable {wire between after : Wire κ}

theorem on_hear_rewired {got : Option ChildMessage} (heard : hearing.on wire = (.ok got, between))
    (link : Link (Watched (Attended κ υ))) :
    hear.on (link.rewired wire) = (.ok got, link.rewired between) := by
  simp only [Wire.reading, on_within] at heard
  obtain ⟨received, rfl⟩ := Prod.mk.inj heard
  simp only [hear, onWire, on_of, Wire.reading, on_within, rewired, Option.getD_some, received]
  rfl

/-- What an exchange leaves: the frames of messages were written, in their order and no others, the
latest report is kept, and the person at the machine is in some state. -/
structure Leaves (told : List ParentMessage) (report : Option ChildReport) (user : υ)
    (before after : Link (Watched (Attended κ υ))) : Prop where
  written : ∃ octets, octets.map .ok = told.map Frame.encode ∧
    after.machine.written = before.machine.written ++ octets
  report_eq : after.report = report
  user_eq : after.user = user

theorem Leaves.after_wrote {told : List ParentMessage} {report : Option ChildReport} {user : υ}
    {message : ParentMessage} {octets : Bytes} {before after : Link (Watched (Attended κ υ))}
    (leaves : Leaves told report user (before.wrote octets) after)
    (encoded : Frame.encode message = .ok octets) :
    Leaves (message :: told) report user before after := by
  obtain ⟨others, othersEncoded, written⟩ := leaves.written
  refine ⟨⟨octets :: others, ?_, ?_⟩, leaves.report_eq, leaves.user_eq⟩
  · rw [List.map_cons, List.map_cons, othersEncoded, encoded]
  · rw [written, wrote, List.append_assoc, List.singleton_append]

variable [Machine κ] [UserInterface υ]

theorem on_tell_rewired {message : ParentMessage}
    (sent : (Frame.send message).on wire = (.ok (), after)) (link : Link (Watched (Attended κ υ))) :
    ∃ octets, Frame.encode message = .ok octets ∧
      (tell message).on (link.rewired wire) = (.ok (), (link.wrote octets).rewired after) := by
  unfold Frame.send at sent
  cases encoded : Frame.encode message with
  | error e =>
    rw [encoded] at sent
    cases sent
  | ok octets =>
    refine ⟨octets, rfl, ?_⟩
    simp only [encoded, Wire.send, on_of] at sent
    simp only [tell, onWire, Frame.send, encoded, Wire.send, on_of, Peer.react, rewired,
      Option.getD_some, on_within]
    rcases reacted : (Peer.react octets).on wire.peer with ⟨e | reaction, child⟩ <;>
      rw [reacted] at sent <;> cases sent
    rfl

/-! ## Listening -/

theorem on_gone {exit : Except Interruption (Option Int)}
    (exits : (Machine.reap.on wire.peer).1 = exit) (link : Link (Watched (Attended κ υ))) :
    ∃ after, (gone (α := Message)).on (link.rewired wire) =
        ((Ending.silence exit).result link.report, after) ∧
      Leaves [] link.report link.user link after := by
  have same : (link.rewired wire).report = link.report := rfl
  rw [gone, on_bind, on_get]
  dsimp only
  rw [same, Ending.result]
  -- A report of a failure comes before the exit code, and nobody waits for the child then.
  cases failing : link.report.filter (!·.isSuccess) with
  | some report => exact ⟨_, rfl, ⟨[], rfl, by simp [rewired]⟩, rfl, rfl⟩
  | none =>
    rcases reaped : (Machine.reap (π := κ)).on wire.peer with ⟨result, child⟩
    rw [reaped] at exits
    subst exits
    have reaps : (onMachine Machine.reap).on (link.rewired wire) =
        (result, link.rewired { wire with peer := child }) := by
      simp [onMachine, on_within, Machine.reap, rewired, reaped]
    refine ⟨link.rewired { wire with peer := child }, ?_, ⟨[], rfl, by simp [rewired]⟩, rfl, rfl⟩
    dsimp only
    rw [on_bind, reaps]
    cases result <;> rfl

/-- A question is asked, the answer is written, and then what comes next is done. -/
theorem on_answer {α : Type} {question : StateM (Watched (Attended κ υ)) α} {reply : α} {user final : υ}
    {response : α → ParentMessage} {rest : Action (Link (Watched (Attended κ υ))) Interruption Message}
    {result : Except Interruption Message} {told : List ParentMessage} {report : Option ChildReport}
    {link : Link (Watched (Attended κ υ))}
    (asked : (ask question).on (link.rewired wire) = (.ok reply, (link.withUser user).rewired wire))
    (answered : (Frame.send (response reply)).on wire = (.ok (), after))
    (next : ∀ octets, ∃ last, rest.on (((link.withUser user).wrote octets).rewired after) =
      (result, last) ∧ Leaves told report final ((link.withUser user).wrote octets) last) :
    ∃ last, (ask question >>= fun answer => tell (response answer) >>= fun _ => rest).on
        (link.rewired wire) = (result, last) ∧
      Leaves (response reply :: told) report final link last := by
  obtain ⟨octets, encoded, written⟩ := on_tell_rewired answered (link.withUser user)
  obtain ⟨last, done, leaves⟩ := next octets
  have all := leaves.after_wrote encoded
  refine ⟨last, ?_, all.written, all.report_eq, all.user_eq⟩
  rw [on_bind, asked]
  dsimp only
  rw [on_bind, written]
  exact done

theorem lastReport?_cons (report : ChildReport) (said : List ChildMessage)
    (earlier : Option ChildReport) :
    (lastReport? (.report report :: said)).or earlier = (lastReport? said).or (some report) := by
  have reports : (ChildMessage.report report :: said).filterMap ChildMessage.report? =
      report :: said.filterMap ChildMessage.report? := rfl
  rw [lastReport?, reports, List.getLast?_cons]
  unfold lastReport?
  cases (said.filterMap ChildMessage.report?).getLast? <;> rfl

/-- Listening to a child until it ends the exchange answers all its questions. -/
theorem on_listen_of_speaks {ending : Ending} {said : List ChildMessage} {told : List ParentMessage}
    (speaks : Speaks ending said told wire) (link : Link (Watched (Attended κ υ)))
    (answers : (responses said link.user).1 = told) {patience : Nat} (bounded : said.length < patience) :
    ∃ after, (listen patience).on (link.rewired wire) =
        (ending.result ((lastReport? said).or link.report), after) ∧
      Leaves told ((lastReport? said).or link.report) (responses said link.user).2 link after := by
  -- On what the child says: the link changes with each frame, by a report or by an answer.
  induction speaks generalizing link patience with
  | @ends wire between heard exits =>
    obtain ⟨patience, rfl⟩ := Nat.exists_eq_add_one.2 bounded
    have nothing : Leaves [] link.report link.user link (link.rewired between) :=
      ⟨⟨[], rfl, by simp [rewired]⟩, rfl, rfl⟩
    rw [listen, on_bind, on_hear_rewired heard]
    cases ending with
    | reply message => exact ⟨_, rfl, nothing⟩
    | ready => exact ⟨_, rfl, nothing⟩
    | silence exit => exact on_gone (exits exit rfl) link
  | @reports report said told wire between heard _ inductionHypothesis =>
    obtain ⟨patience, rfl⟩ := Nat.exists_eq_add_one.2 (Nat.zero_lt_of_lt bounded)
    obtain ⟨after, listened, leaves⟩ := inductionHypothesis (link.withReport report) answers
      (Nat.lt_of_succ_lt_succ bounded)
    rw [lastReport?_cons, listen, on_bind, on_hear_rewired heard]
    exact ⟨after, listened, leaves.written, leaves.report_eq, leaves.user_eq⟩
  | @asks request response said told wire between left isRequest heard answered _
      inductionHypothesis =>
    obtain ⟨patience, rfl⟩ := Nat.exists_eq_add_one.2 (Nat.zero_lt_of_lt bounded)
    have shorter : said.length < patience := Nat.lt_of_succ_lt_succ bounded
    rw [listen, on_bind, on_hear_rewired heard]
    -- The person is asked in the state that the questions before this one have left.
    cases request with
    | askPassword name description key =>
      obtain ⟨rfl, later⟩ := List.cons.inj answers
      let person := (UserInterface.askPassword name description key link.user).2
      exact on_answer rfl answered fun octets =>
        inductionHypothesis ((link.withUser person).wrote octets) later shorter
    | savePassword name password key =>
      obtain ⟨rfl, later⟩ := List.cons.inj answers
      let person := (UserInterface.savePassword name password key link.user).2
      exact on_answer rfl answered fun octets =>
        inductionHypothesis ((link.withUser person).wrote octets) later shorter
    | _ => cases isRequest

/-! ## Exchanges -/

/-- A child that runs gets the message and then one answer for each of its questions, in their order and
from the person at the machine, as long as it can be written to.  The latest report is kept, and what
comes of the exchange is the answer of the child, or why there is none. -/
theorem exchange_answers_questions (start : StartSync) {message : Message}
    {link : Link (Watched (Attended κ υ))} {inbox : Inbox} (running : link.pipe = some inbox)
    (passed : (Frame.send (ParentMessage.message message)).on
      { peer := link.machine.machine.child, inbox } = (.ok (), wire))
    {ending : Ending} {said : List ChildMessage}
    (speaks : Speaks ending said (responses said link.user).1 wire)
    (bounded : said.length < wire.patience) :
    ∃ after, (exchange start message false).on link =
        ((ending.result ((lastReport? said).or link.report)).map some, after) ∧
      Leaves (.message message :: (responses said link.user).1) ((lastReport? said).or link.report)
        (responses said link.user).2 link after ∧
      (exchange start message false).on (link.plain Watched.machine) =
        ((ending.result ((lastReport? said).or link.report)).map some,
          after.plain Watched.machine) := by
  have attached : link.rewired { peer := link.machine.machine.child, inbox } = link := by
    unfold rewired
    rw [← running]
  obtain ⟨octets, encoded, written⟩ := on_tell_rewired passed link
  obtain ⟨after, listened, leaves⟩ := on_listen_of_speaks speaks (link.wrote octets) rfl bounded
  have exchanged : (exchange start message false).on link =
      ((ending.result ((lastReport? said).or link.report)).map some, after) := by
    rw [attached] at written
    rw [on_exchange, running, on_bind]
    change (pass message false).on link = _
    rw [pass, on_bind, written]
    change (listen wire.patience >>= fun reply => pure (some reply)).on
      ((link.wrote octets).rewired wire) = _
    rw [on_bind, listened, show (link.wrote octets).report = link.report from rfl]
    cases ending.result ((lastReport? said).or link.report) <;> rfl
  have plainly := mimics_exchange Watched.recorded start message false link
  rw [exchanged] at plainly
  exact ⟨after, exchanged, leaves.after_wrote encoded, plainly⟩

/-- A child asks for a password, reports a failure, and has a password kept. -/
def curious : List ChildMessage :=
  [.askPassword "password" "phone" {}, .report { status := 500, error := some "disk full" },
    .savePassword "password" "geheim" {}]

def helpful : Observer :=
  { password := some "secret", savesPasswords := true }

/-- A link to a child that says these things and ends, with a person who answers. -/
def toCurious (octets : Bytes) : Link (Watched (Attended ScriptedChild Observer)) :=
  { machine := { machine := { child := { exit := .ok (some 0) }, user := helpful } }
    pipe := some { unread := octets, ended := true } }

theorem exchange_with_curious_child : ∃ octets after,
    Frame.encodeAll curious = .ok octets ∧
    (exchange {} ⟨[120], "text/plain"⟩ false).on (toCurious octets) =
      (.error (.failed (.childReport 500 "disk full")), after) ∧
    Leaves [.message ⟨[120], "text/plain"⟩, .passwordResponse (some "secret"), .savePasswordResponse true]
      (some { status := 500, error := some "disk full" }) (responses curious helpful).2
      (toCurious octets) after := by
  have small : ∀ message ∈ curious, (Cbor.write (Framed.toValue message)).length ≤ frameLimit := by
    decide
  have short : ∀ response ∈ .message ⟨[120], "text/plain"⟩ :: (responses curious helpful).1,
      (Cbor.write (Framed.toValue response)).length ≤ frameLimit := by decide
  have writable : ∀ response ∈ .message ⟨[120], "text/plain"⟩ :: (responses curious helpful).1,
      ∃ frame, Frame.encode response = .ok frame :=
    fun response member => ⟨_, Frame.encode_eq_ok.2 ⟨short response member, rfl⟩⟩
  obtain ⟨⟨frame, encodedMessage⟩, answersWritable⟩ := List.forall_mem_cons.1 writable
  obtain ⟨octets, encoded⟩ := Frame.exists_encodeAll small
  have unbroken : (toCurious octets).machine.machine.child.broken = false := rfl
  obtain ⟨child, passed, sound, exits⟩ :=
    exists_send_scripted unbroken encodedMessage { unread := octets, ended := true }
  have speaks : Speaks (.silence (.ok (some 0))) curious (responses curious helpful).1
      { peer := child, inbox := { unread := octets, ended := true } } := by
    refine speaks_scripted sound (by decide) answersWritable ?_ (by simpa [Ending.message?] using encoded)
    rintro exit ⟨⟩
    exact exits
  have bounded : curious.length <
      Wire.patience { peer := child, inbox := { unread := octets, ended := true } } :=
    Nat.lt_succ_of_le (Nat.le_add_right_of_le (Frame.length_le_of_encodeAll encoded))
  obtain ⟨after, exchanged, leaves, -⟩ := exchange_answers_questions {} rfl passed speaks bounded
  exact ⟨octets, after, encoded, exchanged, leaves⟩

end Link

end DataSync.Local
