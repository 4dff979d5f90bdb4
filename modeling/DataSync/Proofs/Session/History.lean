import DataSync.Session.Synchronizer

/-!
# Histories of sessions

The events that a session notes while it runs, and what each of them tells.  The history of a session is
there also if the session goes on, so that it can be looked at whenever.
-/

namespace DataSync

namespace SessionEvent

/-- What the session is asked to do. -/
def asked? : SessionEvent → Option SessionRequest
  | asked request => some request
  | _ => none

/-- What the engine is told. -/
def told? : SessionEvent → Option StepInput
  | told input => some input
  | _ => none

/-- What the engine says. -/
def answered? : SessionEvent → Option (Except SyncError StepCommand)
  | answered answer => some answer
  | _ => none

/-- The message that the engine wants to send. -/
def wanted? : SessionEvent → Option Message
  | answered (.ok (.send message _)) => some message
  | _ => none

/-- The message that the agent takes. -/
def accepted? : SessionEvent → Option Message
  | accepted message => some message
  | _ => none

/-- Whether the agent is given a message, which it may refuse. -/
def isSending : SessionEvent → Bool
  | accepted _ | refused _ => true
  | _ => false

theorem told?_eq_some {event : SessionEvent} {input : StepInput} :
    event.told? = some input ↔ event = .told input := by
  cases event <;> simp [told?]

end SessionEvent

namespace Session

variable {α β ν : Type} (session : Session α β ν) (event : SessionEvent)

@[simp] theorem agent_note : (session.note event).agent = session.agent := rfl

@[simp] theorem items_note : (session.note event).items = session.items := rfl

@[simp] theorem handle_note : (session.note event).handle = session.handle := rfl

@[simp] theorem clock_note : (session.note event).clock = session.clock := rfl

@[simp] theorem messagesSent_note : (session.note event).messagesSent = session.messagesSent := rfl

@[simp] theorem retries_note : (session.note event).retries = session.retries := rfl

@[simp] theorem history_note : (session.note event).history = session.history ++ [event] := rfl

end Session

namespace Synchronizer

variable {α β ν χ υ : Type} [Agent α] [Backend β] [PropertyNode ν]
  [Surroundings α (Happening β ν)] [Engine χ (Happening β ν)]

/-- The history of a session, up to a number of steps of the engine. -/
def history (horizon : Nat) (password : String) (setting : Setting α β ν χ υ) :
    List SessionEvent :=
  (proceed horizon password setting).2.2.history

theorem exchange_eq_some_iff {horizon : Nat} {password : String} {setting : Setting α β ν χ υ}
    {ending : Except SyncError SessionEnd} {engine : χ} {session : Session α β ν} :
    exchange horizon password setting = some (ending, engine, session) ↔
      proceed horizon password setting = (some ending, engine, session) := by
  rw [exchange]
  rcases proceed horizon password setting with ⟨_ | ending, engine, session⟩ <;> simp

/-- A session as it begins. -/
def opening (setting : Setting α β ν χ υ) : Session α β ν where
  agent := equip setting.synchronizer.config setting.agent
  items := (SessionItems.beginAll setting.synchronizer.config .empty [] setting.sources).1

/-- A session ends before its first step if the engine does not begin. -/
theorem proceed_cases (horizon : Nat) (password : String) (setting : Setting α β ν χ υ) :
    (∃ e engine, (Engine.begin (Happening β ν) (sessionInfo setting.synchronizer.config password)
        (SessionItems.beginAll setting.synchronizer.config .empty [] setting.sources).2).on
        setting.engine = (.error e, engine) ∧
      proceed horizon password setting = (some (.error e), engine, opening setting)) ∨
    ∃ engine, (Engine.begin (Happening β ν) (sessionInfo setting.synchronizer.config password)
        (SessionItems.beginAll setting.synchronizer.config .empty [] setting.sources).2).on
        setting.engine = (.ok (), engine) ∧
      proceed horizon password setting = (opening setting).converse setting.synchronizer.config.retry
        horizon .none .start engine := by
  simp only [proceed, converse]
  rcases (Engine.begin (Happening β ν) (sessionInfo setting.synchronizer.config password)
    (SessionItems.beginAll setting.synchronizer.config .empty [] setting.sources).2).on
    setting.engine with ⟨e | ⟨⟩, engine⟩
  · exact .inl ⟨e, engine, rfl, rfl⟩
  · exact .inr ⟨engine, rfl, rfl⟩

end Synchronizer

end DataSync
