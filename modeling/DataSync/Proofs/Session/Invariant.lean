import DataSync.Proofs.Keeps
import DataSync.Proofs.Session.History

/-!
# Invariants of sessions

The engine reaches the items of a session only through three accesses, and the surroundings only
through disturbances.  What disturbances keep is kept by every attempt to transfer a message and every
pause, in whatever order agent and surroundings make them happen; what the accesses keep, too, is kept
by every program of the engine and so by the whole exchange of messages.
-/

namespace DataSync

open DataSync.Action

variable {α β ν χ γ : Type}

theorem Session.items_withHandle [Agent α] (handle : SessionHandle) (session : Session α β ν) :
    (session.withHandle handle).items = session.items := by
  unfold withHandle
  dsimp only
  split <;> split <;> rfl

theorem Session.items_hand [Agent α] (message : Message) (session : Session α β ν) :
    (session.hand message).2.items = session.items := by
  unfold hand
  split <;> rfl

variable [Backend β] [PropertyNode ν]

/-- Changes of sources from the outside keep the property. -/
def SessionItems.Undisturbed (P : SessionItems β ν → Prop) : Prop :=
  ∀ change items, P items → P (items.disturb change)

/-- Accesses to items and disturbances keep the property. -/
structure SessionItems.Invariant (P : SessionItems β ν → Prop) : Prop where
  readItem : ∀ name luid, (SessionItems.readItem (β := β) (ν := ν) name luid).Keeps P
  insertItem : ∀ name luid content,
    (SessionItems.insertItem (β := β) (ν := ν) name luid content).Keeps P
  deleteItem : ∀ name luid, (SessionItems.deleteItem (β := β) (ν := ν) name luid).Keeps P
  disturb : ∀ change items, P items → P (items.disturb change)

namespace SessionItems.Undisturbed

variable {P : SessionItems β ν → Prop} (undisturbed : Undisturbed P) {session : Session α β ν}

variable [Agent α]

include undisturbed

theorem meet (happening : Happening β ν) (holds : P session.items) :
    P (session.meet happening).items := by
  cases happening with
  | disturbance change => exact undisturbed change session.items holds
  | _ =>
    rw [Session.meet, Session.items_withHandle]
    exact holds

theorem foldl_meet (happenings : List (Happening β ν)) (holds : P session.items) :
    P (happenings.foldl Session.meet session).items := by
  induction happenings generalizing session with
  | nil => exact holds
  | cons happening rest inductionHypothesis =>
    exact inductionHypothesis (undisturbed.meet happening holds)

/-! ## Transfers -/

variable [Surroundings α (Happening β ν)]

theorem look (holds : P session.items) : P session.look.items := by
  unfold Session.look
  obtain ⟨happenings, agent⟩ :=
    (Surroundings.happenings : StateM α (List (Happening β ν))) session.agent
  exact undisturbed.foldl_meet happenings holds

theorem await (noReply : Bool) (holds : P session.items) :
    P (session.await noReply).2.items := by
  unfold Session.await
  exact undisturbed.look (undisturbed.look holds)

theorem attempt (delivered : SessionRequest) (message : Message) (expectsReply : Bool)
    (holds : P session.items) :
    P (session.attempt delivered message expectsReply).2.items := by
  have handed : P (session.hand message).2.items := by
    rw [session.items_hand]
    exact holds
  unfold Session.attempt
  split
  · rename_i refused
    rw [refused] at handed
    exact handed
  · rename_i taken
    rw [taken] at handed
    refine undisturbed.await _ ?_
    split
    · exact undisturbed.look handed
    · exact undisturbed.look handed

theorem rest (time : Duration) (holds : P session.items) : P (session.rest time).2.items := by
  unfold Session.rest
  have looked := undisturbed.look holds
  dsimp only
  split <;> exact looked

/-- Every repetition of a transfer begins where the pause after the last attempt left the items. -/
theorem transfer (policy : RetryPolicy) (delivered : SessionRequest) (message : Message)
    (expectsReply : Bool) (elapsed : Duration) (holds : P session.items) :
    P (session.transfer policy delivered message expectsReply elapsed).2.items := by
  fun_induction Session.transfer policy delivered message expectsReply elapsed session with
  | case1 _ _ _ _ settled =>
    have attempted := undisturbed.attempt delivered message expectsReply holds
    rw [settled] at attempted
    exact attempted
  | case2 _ _ _ _ failed time _ _ interrupted =>
    have attempted := undisturbed.attempt delivered message expectsReply holds
    rw [failed] at attempted
    have rested := undisturbed.rest (policy.delay time) attempted
    rw [interrupted] at rested
    exact rested
  | case3 _ _ _ _ failed time _ _ paused inductionHypothesis =>
    have attempted := undisturbed.attempt delivered message expectsReply holds
    rw [failed] at attempted
    have rested := undisturbed.rest (policy.delay time) attempted
    rw [paused] at rested
    exact inductionHypothesis rested
  | case4 _ _ _ _ failed =>
    have attempted := undisturbed.attempt delivered message expectsReply holds
    rw [failed] at attempted
    exact attempted

end SessionItems.Undisturbed

/-! ## Sessions -/

section Sessions

variable [Agent α] [Surroundings α (Happening β ν)] [Engine χ (Happening β ν)]

/-- A session is a series of steps of the engine, each with the transfer of a message after it. -/
theorem Session.converse_keeps {P : χ → Session α β ν → Prop}
    (look : ∀ {engine} {session : Session α β ν}, P engine session → P engine session.look)
    (tell : ∀ {engine} {session : Session α β ν} input, P engine session →
      P (session.tell input engine).2.1 (session.tell input engine).2.2)
    (transfer : ∀ {engine} {session : Session α β ν} policy delivered message expectsReply,
      P engine session → P engine (session.transfer policy delivered message expectsReply 0).2)
    {session : Session α β ν} {engine : χ} (policy : RetryPolicy) (horizon : Nat)
    (delivered : SessionRequest) (input : StepInput) (holds : P engine session) :
    P (session.converse policy horizon delivered input engine).2.1
      (session.converse policy horizon delivered input engine).2.2 := by
  induction horizon generalizing delivered input engine session with
  | zero => exact holds
  | succ horizon inductionHypothesis =>
    rcases told : session.look.nextInput delivered input with ⟨delivered, input⟩
    have stepped := tell input (look holds)
    rcases answered : session.look.tell input engine with ⟨answer, engine, session⟩
    rw [answered] at stepped
    simp only [Session.converse, told, answered]
    cases answer with
    | error e => exact stepped
    | ok command =>
      cases command with
      | finish ending => exact stepped
      | send message expectsReply =>
        -- After an abort nothing is sent; otherwise the next step follows the transfer.
        have transferred := transfer policy delivered message expectsReply stepped
        dsimp only
        split
        · exact stepped
        · rcases result : session.transfer policy delivered message expectsReply 0 with
            ⟨e | exchange, session⟩
          · rw [result] at transferred
            exact transferred
          · rw [result] at transferred
            cases exchange with
            | _ => exact inductionHypothesis _ _ transferred

/-- Whatever ends a session, its items are as steps of the engine and transfers leave them. -/
theorem Session.converse_keeps_items {P : χ → SessionItems β ν → Prop}
    (undisturbed : ∀ engine, SessionItems.Undisturbed (P engine))
    (steps : ∀ input engine (session : Session α β ν), P engine session.items →
      P (session.perform (Engine.step input engine)).1.2
        (session.perform (Engine.step input engine)).2.items)
    {session : Session α β ν} {engine : χ} (policy : RetryPolicy) (horizon : Nat)
    (delivered : SessionRequest) (input : StepInput) (holds : P engine session.items) :
    P (session.converse policy horizon delivered input engine).2.1
      (session.converse policy horizon delivered input engine).2.2.items :=
  Session.converse_keeps (P := fun engine session => P engine session.items)
    (undisturbed _).look (fun input => steps input _ (Session.note _ _))
    ((undisturbed _).transfer · · · · 0) policy horizon delivered input holds

end Sessions

namespace SessionItems.Invariant

variable {P : SessionItems β ν → Prop} (invariant : Invariant P)
  {session : Session α β ν}

variable [Agent α]

include invariant

theorem undisturbed : Undisturbed P :=
  invariant.disturb

/-- The work of an engine is one access after the other, with happenings in between. -/
theorem perform (program : ItemProgram (Happening β ν) γ) (holds : P session.items) :
    P (Session.perform program session).2.items := by
  induction program generalizing session with
  | pure result => exact holds
  | read source luid next inductionHypothesis =>
    exact inductionHypothesis _ (invariant.readItem source luid session.items holds)
  | insert source luid content next inductionHypothesis =>
    exact inductionHypothesis _ (invariant.insertItem source luid content session.items holds)
  | delete source luid next inductionHypothesis =>
    exact inductionHypothesis _ (invariant.deleteItem source luid session.items holds)
  | meanwhile happening next inductionHypothesis =>
    exact inductionHypothesis (invariant.undisturbed.meet happening holds)

variable [Surroundings α (Happening β ν)] [Engine χ (Happening β ν)]

theorem converse (policy : RetryPolicy) (horizon : Nat) (delivered : SessionRequest)
    (input : StepInput) (engine : χ) (holds : P session.items) :
    P (session.converse policy horizon delivered input engine).2.2.items :=
  Session.converse_keeps_items (fun _ => invariant.undisturbed)
    (fun input engine _ => invariant.perform (Engine.step input engine)) _ _ _ _ holds

end SessionItems.Invariant

end DataSync
