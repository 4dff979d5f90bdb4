import DataSync.Transport.Agent

/-!
# Operations beside a record

A state may keep a record beside the state that it is about.  An operation on it mimics an operation on
the plain state if forgetting the record before or after makes no difference, so that what the record
says is what the plain operation does.  Composed operations mimic what is composed of what their parts
mimic.
-/

namespace DataSync

namespace Action

variable {σ τ σ' τ' ε α β : Type} {forget : τ → σ}

/-- Without the record the operation is the plain one. -/
def Mimics (forget : τ → σ) (action : Action τ ε α) (plain : Action σ ε α) : Prop :=
  ∀ t, plain.on (forget t) = ((action.on t).1, forget (action.on t).2)

namespace Mimics

theorem pure (a : α) : Mimics forget (Pure.pure a : Action τ ε α) (Pure.pure a) :=
  fun _ => rfl

theorem throw (e : ε) :
    Mimics forget (MonadExcept.throw e : Action τ ε α) (MonadExcept.throw e) :=
  fun _ => rfl

theorem modify {f : τ → τ} {g : σ → σ} (same : ∀ t, g (forget t) = forget (f t)) :
    Mimics forget (modify f : Action τ ε PUnit) (modify g) :=
  fun t => congrArg (Prod.mk _) (same t)

theorem alter {f : τ → τ} {g : σ → σ} (same : ∀ t, g (forget t) = forget (f t)) :
    Mimics forget (alter f : Action τ ε Unit) (alter g) :=
  fun t => congrArg (Prod.mk _) (same t)

theorem bind {action : Action τ ε α} {plain : Action σ ε α} {next : α → Action τ ε β}
    {plainNext : α → Action σ ε β} (first : Mimics forget action plain)
    (second : ∀ a, Mimics forget (next a) (plainNext a)) :
    Mimics forget (action >>= next) (plain >>= plainNext) := by
  intro t
  rw [on_bind, on_bind, first t]
  rcases action.on t with ⟨e | a, after⟩
  · rfl
  · exact second a after

/-- What an operation makes of its state may depend on what is forgotten, if what is left of it does
not. -/
theorem get_bind {next : τ → Action τ ε β} {plainNext : σ → Action σ ε β}
    (same : ∀ t, Mimics forget (next t) (plainNext (forget t))) :
    Mimics forget (get >>= next) (get >>= plainNext) := by
  intro t
  rw [on_bind, on_bind, on_get, on_get]
  exact same t t

theorem within {get : σ → σ'} {set : σ' → σ → σ} {get' : τ → τ'} {set' : τ' → τ → τ}
    {forgetPart : τ' → σ'} {action : Action τ' ε α} {plain : Action σ' ε α}
    (mimics : Mimics forgetPart action plain) (gets : ∀ t, get (forget t) = forgetPart (get' t))
    (sets : ∀ part t, set (forgetPart part) (forget t) = forget (set' part t)) :
    Mimics forget (action.within get' set') (plain.within get set) := by
  intro t
  rw [on_within, on_within, gets, mimics, sets]

theorem attempt {ε' : Type} {action : Action τ ε α} {plain : Action σ ε α}
    (mimics : Mimics forget action plain) :
    Mimics forget (action.attempt : Action τ ε' _) plain.attempt := by
  intro t
  rw [on_attempt, on_attempt, mimics]

theorem stateAfter {action : Action τ ε α} {plain : Action σ ε α}
    (mimics : Mimics forget action plain) (t : τ) :
    plain.stateAfter (forget t) = forget (action.stateAfter t) :=
  congrArg Prod.snd (mimics t)

end Mimics

end Action

open DataSync.Action

variable {π τ α : Type} {forget : τ → π}

/-! ## Wires -/

/-- A peer with a record beside it. -/
structure Peer.Recorded [Peer π] [Peer τ] (forget : τ → π) : Prop where
  react : ∀ bytes, Mimics forget (Peer.react bytes) (Peer.react bytes)
  stamina : ∀ peer, Peer.stamina (forget peer) = Peer.stamina peer

namespace Wire

/-- A wire to the peer without the record. -/
def plain (forget : τ → π) (wire : Wire τ) : Wire π :=
  { peer := forget wire.peer, inbox := wire.inbox }

theorem mimics_reading (action : Action Inbox Interruption α) :
    Mimics (plain forget) (reading action) (reading action) :=
  fun _ => rfl

variable [Peer π] [Peer τ] (recorded : Peer.Recorded forget)

include recorded

theorem mimics_send (bytes : Bytes) : Mimics (plain forget) (send bytes) (send bytes) := by
  intro wire
  simp only [send, on_of, plain]
  rw [recorded.react]
  rcases (Peer.react bytes).on wire.peer with ⟨e | reaction, peer⟩ <;> rfl

theorem patience_plain (wire : Wire τ) : (wire.plain forget).patience = wire.patience := by
  simp [patience, plain, recorded.stamina]

end Wire

/-! ## Transfers -/

theorem AgentCore.drive_mimics {σ : Type} {forget : τ → σ} {transfer : Action τ Interruption α}
    {plain : Action σ Interruption α} (mimics : Mimics forget transfer plain) (core : AgentCore)
    (t : τ) :
    core.drive plain (forget t) = ((core.drive transfer t).1, (core.drive transfer t).2.1,
      forget (core.drive transfer t).2.2) := by
  unfold drive
  split
  · rfl
  · rw [mimics t]
    rcases transfer.on t with ⟨(e | _) | result, after⟩
    · cases e <;> rfl
    · cases core.deadline <;> rfl
    · rfl

end DataSync
