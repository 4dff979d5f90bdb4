import DataSync.Proofs.Session.Run
import DataSync.Proofs.Session.StoreCalls

/-!
# Minutes of engines

An engine that keeps minutes does what it did without them, and enters every call for an item with the
answer that it got.  Forgetting the minutes gives the session back, so that what the minutes of a
session say is what its engine was answered.
-/

namespace DataSync

open DataSync.Action

/-- A call of an engine for an item, with its answer. -/
structure Minute where
  call : StoreCall
  answer : Except ItemStatus ItemAnswer

/-- An engine with the minutes of its calls, the latest one last. -/
structure Minuted (χ : Type) where
  engine : χ
  minutes : List Minute := []

variable {α β ν χ υ η γ : Type}

/-- The work of an engine, with its calls entered into the minutes. -/
def ItemProgram.minuted :
    ItemProgram η (γ × χ) → List Minute → ItemProgram η (γ × Minuted χ)
  | .pure (result, engine), minutes => .pure (result, ⟨engine, minutes⟩)
  | .read source luid next, minutes =>
    .read source luid fun answer =>
      (next answer).minuted (minutes ++ [⟨⟨source, .read luid⟩, answer.map .content⟩])
  | .insert source luid content next, minutes =>
    .insert source luid content fun answer =>
      (next answer).minuted (minutes ++ [⟨⟨source, .insert luid content⟩, answer.map .inserted⟩])
  | .delete source luid next, minutes =>
    .delete source luid fun answer =>
      (next answer).minuted (minutes ++ [⟨⟨source, .delete luid⟩, answer.map fun _ => .deleted⟩])
  | .meanwhile happening next, minutes => .meanwhile happening (next.minuted minutes)

instance [Engine χ η] : Engine (Minuted χ) η where
  begin session offers := (Engine.begin η session offers).within (·.engine)
    fun engine minuted => { minuted with engine }
  step input minuted := (Engine.step input minuted.engine).minuted minuted.minutes

/-- The setting whose engine keeps minutes. -/
def Setting.minuted (setting : Setting α β ν χ υ) : Setting α β ν (Minuted χ) υ :=
  { setting with engine := ⟨setting.engine, []⟩ }

section Steps

variable [Engine χ η]

theorem Engine.begin_minuted (info : SessionInfo) (offers : List SourceOffer)
    (minuted : Minuted χ) :
    (Engine.begin η info offers : Action (Minuted χ) SyncError Unit).on minuted =
      (((Engine.begin η info offers).on minuted.engine).1,
        { minuted with engine := ((Engine.begin η info offers).on minuted.engine).2 }) := rfl

theorem Engine.step_minuted (input : StepInput) (minuted : Minuted χ) :
    (Engine.step input minuted : ItemProgram η _) =
      (Engine.step input minuted.engine).minuted minuted.minutes := rfl

end Steps

/-! ## Minutes change nothing -/

variable [Backend β] [PropertyNode ν] [Agent α]

/-- How a session ended, if it did, without the minutes of the engine. -/
def unminuted {ε : Type} (proceeded : ε × Minuted χ × Session α β ν) : ε × χ × Session α β ν :=
  (proceeded.1, proceeded.2.1.engine, proceeded.2.2)

theorem Session.perform_minuted (program : ItemProgram (Happening β ν) (γ × χ))
    (minutes : List Minute) (session : Session α β ν) :
    ∃ later, session.perform (program.minuted minutes) =
      (((session.perform program).1.1, ⟨(session.perform program).1.2, later⟩),
        (session.perform program).2) := by
  induction program generalizing minutes session with
  | pure result => exact ⟨minutes, rfl⟩
  | read source luid next inductionHypothesis => exact inductionHypothesis _ _ _
  | insert source luid content next inductionHypothesis => exact inductionHypothesis _ _ _
  | delete source luid next inductionHypothesis => exact inductionHypothesis _ _ _
  | meanwhile happening next inductionHypothesis => exact inductionHypothesis _ _

variable [Surroundings α (Happening β ν)] [Engine χ (Happening β ν)]

omit [Surroundings α (Happening β ν)] in
theorem Session.tell_minuted (input : StepInput) (minuted : Minuted χ) (session : Session α β ν) :
    unminuted (session.tell input minuted) = session.tell input minuted.engine := by
  obtain ⟨later, performed⟩ := (session.note (.told input)).perform_minuted
    (Engine.step input minuted.engine) minuted.minutes
  simp only [Session.tell, Engine.step_minuted, performed]
  rfl

theorem Session.converse_minuted (policy : RetryPolicy) (horizon : Nat)
    (delivered : SessionRequest) (input : StepInput) (minuted : Minuted χ)
    (session : Session α β ν) :
    unminuted (session.converse policy horizon delivered input minuted) =
      session.converse policy horizon delivered input minuted.engine := by
  induction horizon generalizing delivered input minuted session with
  | zero => rfl
  | succ horizon inductionHypothesis =>
    rcases told : session.look.nextInput delivered input with ⟨delivered, input⟩
    have same := session.look.tell_minuted input minuted
    rcases answered : session.look.tell input minuted with ⟨answer, minuted, session⟩
    rw [answered] at same
    simp only [Session.converse, told, answered, ← same, unminuted]
    cases answer with
    | error e => rfl
    | ok command =>
      cases command with
      | finish ending => rfl
      | send message expectsReply =>
        dsimp only
        split
        · rfl
        · rcases session.transfer policy delivered message expectsReply 0 with
            ⟨e | exchange, session⟩
          · rfl
          · cases exchange with
            | _ => exact inductionHypothesis _ _ _ _

namespace Synchronizer

theorem proceed_minuted (horizon : Nat) (password : String) (setting : Setting α β ν χ υ) :
    unminuted (proceed horizon password setting.minuted) = proceed horizon password setting := by
  simp only [proceed, converse, Setting.minuted, Engine.begin_minuted]
  rcases (Engine.begin (Happening β ν) (sessionInfo setting.synchronizer.config password)
    (SessionItems.beginAll setting.synchronizer.config .empty [] setting.sources).2).on
    setting.engine with ⟨e | ⟨⟩, engine⟩
  · rfl
  · exact Session.converse_minuted _ _ _ _ _ _

theorem exchange_minuted (horizon : Nat) (password : String) (setting : Setting α β ν χ υ) :
    (exchange horizon password setting.minuted).map unminuted =
      exchange horizon password setting := by
  rw [exchange, exchange, ← proceed_minuted horizon password setting]
  rcases proceed horizon password setting.minuted with ⟨_ | ending, minuted, session⟩ <;> rfl

variable [UserInterface υ] {horizon : Nat} {setting : Setting α β ν χ υ}
  {ending : Except SyncError SessionEnd} {minutes : List Minute} {session : Session α β ν}

/-- The session of a setting ends like this, with these minutes of its engine, when it gets its
password. -/
def Proceeds (horizon : Nat) (setting : Setting α β ν χ υ) (ending : Except SyncError SessionEnd)
    (minutes : List Minute) (session : Session α β ν) : Prop :=
  ∃ password person engine,
    (setting.synchronizer.config.resolvePassword).on setting.person = (.ok password, person) ∧
      exchange horizon password setting.minuted = some (ending, ⟨engine, minutes⟩, session)

theorem Proceeds.exchanges (proceeds : Proceeds horizon setting ending minutes session) :
    Exchanges horizon setting ending session := by
  obtain ⟨password, person, engine, resolved, exchanged⟩ := proceeds
  refine ⟨password, person, engine, resolved, ?_⟩
  rw [← exchange_minuted, exchanged]
  rfl

theorem Exchanges.proceeds (exchanges : Exchanges horizon setting ending session) :
    ∃ minutes, Proceeds horizon setting ending minutes session := by
  obtain ⟨password, person, engine, resolved, exchanged⟩ := exchanges
  rw [← exchange_minuted] at exchanged
  obtain ⟨⟨_, ⟨_, minutes⟩, _⟩, minuted, same⟩ := Option.map_eq_some_iff.1 exchanged
  cases same
  exact ⟨minutes, password, person, _, resolved, minuted⟩

end Synchronizer

/-! ## What holds of minutes -/

/-- Calls that are entered with their answers, and disturbances, keep the property. -/
structure MinutesInvariant (P : List Minute → SessionItems β ν → Prop) : Prop where
  call : ∀ (call : StoreCall) minutes items, P minutes items →
    P (minutes ++ [⟨call, (call.perform.on items).1⟩]) (call.perform.stateAfter items)
  undisturbed : ∀ minutes, SessionItems.Undisturbed (P minutes)

namespace MinutesInvariant

variable {P : List Minute → SessionItems β ν → Prop} (invariant : MinutesInvariant P)
  {minutes : List Minute} {session : Session α β ν}

include invariant

omit [Surroundings α (Happening β ν)] [Engine χ (Happening β ν)] in
theorem perform (program : ItemProgram (Happening β ν) (γ × χ)) (holds : P minutes session.items) :
    P (session.perform (program.minuted minutes)).1.2.minutes
      (session.perform (program.minuted minutes)).2.items := by
  induction program generalizing minutes session with
  | pure result => exact holds
  | read source luid next inductionHypothesis =>
    have kept := invariant.call ⟨source, .read luid⟩ minutes session.items holds
    rw [StoreCall.perform, stateAfter_map, on_map] at kept
    exact inductionHypothesis _ kept
  | insert source luid content next inductionHypothesis =>
    have kept := invariant.call ⟨source, .insert luid content⟩ minutes session.items holds
    rw [StoreCall.perform, stateAfter_map, on_map] at kept
    exact inductionHypothesis _ kept
  | delete source luid next inductionHypothesis =>
    have kept := invariant.call ⟨source, .delete luid⟩ minutes session.items holds
    rw [StoreCall.perform, stateAfter_map, on_map] at kept
    exact inductionHypothesis _ kept
  | meanwhile happening next inductionHypothesis =>
    exact inductionHypothesis ((invariant.undisturbed minutes).meet happening holds)

theorem converse (policy : RetryPolicy) (horizon : Nat) (delivered : SessionRequest)
    (input : StepInput) (minuted : Minuted χ) (holds : P minuted.minutes session.items) :
    P (session.converse policy horizon delivered input minuted).2.1.minutes
      (session.converse policy horizon delivered input minuted).2.2.items :=
  Session.converse_keeps_items (P := fun minuted : Minuted χ => P minuted.minutes)
    (fun minuted => invariant.undisturbed minuted.minutes)
    (fun input minuted _ => invariant.perform (Engine.step input minuted.engine)) _ _ _ _ holds

/-- What holds when the sources have begun, before the engine made a call, holds when the session
ends. -/
theorem proceeds [UserInterface υ] {horizon : Nat} {setting : Setting α β ν χ υ}
    {ending : Except SyncError SessionEnd}
    (begun : P []
      (SessionItems.beginAll setting.synchronizer.config .empty [] setting.sources).1)
    (proceeds : Synchronizer.Proceeds horizon setting ending minutes session) :
    P minutes session.items := by
  obtain ⟨password, person, engine, -, exchanged⟩ := proceeds
  rw [Synchronizer.exchange_eq_some_iff] at exchanged
  obtain ⟨e, _, begins, proceeded⟩ | ⟨minuted, begins, proceeded⟩ :=
    Synchronizer.proceed_cases horizon password setting.minuted
  · cases proceeded.symm.trans exchanged
    cases (Prod.mk.inj begins).2
    exact begun
  · have fresh : minuted.minutes = [] := by
      cases (Prod.mk.inj begins).2
      rfl
    have held : P minuted.minutes (Synchronizer.opening setting.minuted).items := by
      rw [fresh]
      exact begun
    have kept := invariant.converse setting.synchronizer.config.retry horizon .none .start minuted held
    have ended := proceeded.symm.trans exchanged
    rw [Setting.minuted] at ended kept
    rw [ended] at kept
    exact kept

end MinutesInvariant

end DataSync
