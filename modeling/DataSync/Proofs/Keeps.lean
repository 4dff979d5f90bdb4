import DataSync.Basic

/-!
# Properties that operations keep

An operation keeps a property of its state if the state after it has the property whenever the state
before it had, whether the operation succeeds or fails.  Composed operations keep what their parts
keep, so that an invariant is shown for the steps of an operation and holds for the whole.

Where the steps of an operation need different properties, what is shown of each is what it leads to
from a state with one of them, and what it leaves if it fails.
-/

namespace DataSync

namespace Action

variable {σ τ ε α β : Type} {P : σ → Prop}

/-- The state after the operation has the property if the state before it has. -/
def Keeps (P : σ → Prop) (action : Action σ ε α) : Prop :=
  ∀ s, P s → P (action.stateAfter s)

theorem keeps_pure (a : α) : Keeps P (pure a : Action σ ε α) :=
  fun _ holds => holds

theorem keeps_get : Keeps P (get : Action σ ε σ) :=
  fun _ holds => holds

theorem keeps_modify {f : σ → σ} (keeps : ∀ s, P s → P (f s)) :
    Keeps P (modify f : Action σ ε PUnit) :=
  keeps

namespace Keeps

/-- What holds after the first part of an operation is kept by the second. -/
theorem after_bind {action : Action σ ε α} {next : α → Action σ ε β} {s : σ}
    (between : P (action.stateAfter s)) (second : ∀ a, (next a).Keeps P) :
    P ((action >>= next).stateAfter s) := by
  unfold stateAfter at between ⊢
  rw [on_bind]
  rcases result : action.on s with ⟨e | a, s'⟩
  · simpa [result] using between
  · rw [result] at between
    exact second a s' between

theorem bind {action : Action σ ε α} {next : α → Action σ ε β} (first : action.Keeps P)
    (second : ∀ a, (next a).Keeps P) : Keeps P (action >>= next) :=
  fun s holds => after_bind (first s holds) second

/-- An operation on a part of the state keeps what its results do not break when they are put
back. -/
theorem within {get : σ → τ} {set : τ → σ → σ} {action : Action τ ε α}
    (keeps : ∀ s, P s → P (set (action.stateAfter (get s)) s)) : Keeps P (action.within get set) :=
  keeps

end Keeps

/-! ## Operations that lead from one property to another -/

variable {R : σ → Prop}

/-- From a state with a property the operation leads to a result and a state that fit each other, or
fails and leaves a state with another property. -/
def Leads (P : σ → Prop) (action : Action σ ε α) (Q : α → σ → Prop) (R : σ → Prop) : Prop :=
  ∀ s, P s → match action.on s with
    | (.ok a, after) => Q a after
    | (.error _, after) => R after

theorem Keeps.leads {action : Action σ ε α} (keeps : action.Keeps P) :
    Leads P action (fun _ => P) P := by
  intro s holds
  have kept := keeps s holds
  unfold stateAfter at kept
  rcases on : action.on s with ⟨e | a, after⟩ <;> rwa [on] at kept

namespace Leads

variable {Q Q' : α → σ → Prop} {S : β → σ → Prop}

theorem pure {a : α} (fits : ∀ s, P s → Q a s) : Leads P (pure a : Action σ ε α) Q R :=
  fits

theorem throw {e : ε} (left : ∀ s, P s → R s) : Leads P (throw e : Action σ ε α) Q R :=
  left

theorem modify {f : σ → σ} {Q : PUnit → σ → Prop} (fits : ∀ s, P s → Q () (f s)) :
    Leads P (modify f : Action σ ε PUnit) Q R :=
  fits

theorem alter {f : σ → σ} {Q : Unit → σ → Prop} (fits : ∀ s, P s → Q () (f s)) :
    Leads P (alter f : Action σ ε Unit) Q R :=
  fits

theorem bind {action : Action σ ε α} {next : α → Action σ ε β} (first : Leads P action Q R)
    (second : ∀ a, Leads (Q a) (next a) S R) : Leads P (action >>= next) S R := by
  intro s holds
  have between := first s holds
  rw [on_bind]
  rcases on : action.on s with ⟨e | a, after⟩
  · rwa [on] at between
  · rw [on] at between
    exact second a after between

theorem attempt {ε' : Type} {action : Action σ ε α} (keeps : action.Keeps P) :
    Leads P (action.attempt : Action σ ε' _) (fun _ => P) R :=
  keeps

theorem get_bind {next : σ → Action σ ε β}
    (second : ∀ s, Leads (fun t => P t ∧ t = s) (next s) S R) : Leads P (get >>= next) S R := by
  intro s holds
  rw [on_bind, on_get]
  exact second s s ⟨holds, rfl⟩

theorem weaken {action : Action σ ε α} (leads : Leads P action Q R) {P' R' : σ → Prop}
    (before : ∀ s, P' s → P s) (fits : ∀ a s, Q a s → Q' a s) (left : ∀ s, R s → R' s) :
    Leads P' action Q' R' := by
  intro s holds
  have led := leads s (before s holds)
  rcases on : action.on s with ⟨e | a, after⟩
  · rw [on] at led
    exact left _ led
  · rw [on] at led
    exact fits _ _ led

/-- What an operation leads to however it ends holds after it. -/
theorem stateAfter {action : Action σ ε α} {T : σ → Prop} (leads : Leads P action (fun _ => T) T)
    {s : σ} (holds : P s) : T (action.stateAfter s) := by
  have led := leads s holds
  unfold Action.stateAfter
  rcases on : action.on s with ⟨e | a, after⟩ <;> rwa [on] at led

theorem keeps {action : Action σ ε α} (leads : Leads P action (fun _ => P) P) : action.Keeps P :=
  fun _ holds => leads.stateAfter holds

end Leads

end Action

end DataSync
