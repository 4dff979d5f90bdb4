import DataSync.Proofs.Keeps
import DataSync.Source.Basic

/-!
# Stable properties of sources

A property of a source is stable if it survives calls of the backend and does not depend on the state
of the session.  A session keeps every stable property: its beginning, every access to an item, and
every note of a failure.  What the node of a source holds is stable, because nothing but a commit
writes to it, and so is the name of a source whose backend keeps its name.
-/

namespace DataSync

/-- The operations that a source calls on its backend. -/
inductive Backend.IsCall {β : Type} [Backend β] : {α : Type} → Action β SourceError α → Prop where
  | openItems : IsCall Backend.openItems
  | closeItems : IsCall Backend.closeItems
  | list : IsCall Backend.list
  | read (luid : Luid) : IsCall (Backend.read luid)
  | insert (luid : Option Luid) (content : Bytes) : IsCall (Backend.insert luid content)
  | remove (luid : Luid) : IsCall (Backend.remove luid)

namespace Source

open DataSync.Action Backend

variable {β ν α : Type} [Backend β] {P : Source β ν → Prop}

/-- The property survives calls of the backend and any change in the state of the session. -/
structure Stable (P : Source β ν → Prop) : Prop where
  session : ∀ {source : Source β ν} mode current isOpen failure, P source →
    P { source with mode, current, isOpen, failure }
  tracking : ∀ {source : Source β ν} {tracking : Tracking ν} previous failed,
    source.tracking = some tracking → P source →
    P { source with tracking := some { tracking with previous, failed } }
  call : ∀ {α : Type} {call : Action β SourceError α}, IsCall call → ∀ {source : Source β ν},
    P source → P { source with backend := call.stateAfter source.backend }

namespace Stable

variable (stable : Stable P)

include stable

theorem cleared (mode : SyncMode) {source : Source β ν} (holds : P source) :
    P (source.cleared mode) := by
  unfold Source.cleared
  cases tracked : source.tracking with
  | none => simpa [tracked] using stable.session mode .empty source.isOpen none holds
  | some tracking =>
    exact stable.session mode .empty source.isOpen none
      (stable.tracking tracking.previous .empty tracked holds)

theorem note (e : SourceError) {source : Source β ν} (holds : P source) : P (source.note e) := by
  unfold Source.note Source.fail
  split
  · exact stable.session source.mode source.current source.isOpen (some e.message) holds
  · exact holds

theorem recordFailure (luid : Luid) {source : Source β ν} (holds : P source) :
    P (source.recordFailure luid) := by
  cases tracked : source.tracking with
  | none =>
    have unchanged : source.recordFailure luid = source := by
      cases source
      simp_all [Source.recordFailure]
    rw [unchanged]
    exact holds
  | some tracking =>
    have after := stable.tracking tracking.previous (tracking.failed.insert luid ()) tracked holds
    simpa [Source.recordFailure, tracked] using after

theorem keeps_onBackend {call : Action β SourceError α} (isCall : IsCall call) :
    (onBackend (ν := ν) call).Keeps P :=
  Keeps.within fun _ holds => stable.call isCall holds

theorem keeps_noting {action : Action (Source β ν) SourceError α} (keeps : action.Keeps P) :
    (noting action).Keeps P := by
  intro source holds
  have after := keeps source holds
  unfold stateAfter at after ⊢
  simp only [noting, on_of]
  rcases result : action.on source with ⟨e | a, source'⟩
  · exact stable.note e (by simpa [result] using after)
  · simpa [result] using after

/-- A wipe is one call after the other, whatever they answer. -/
theorem keeps_wipe (luids : List Luid) : (onBackend (ν := ν) (wipe (β := β) luids)).Keeps P := by
  induction luids with
  | nil => exact fun _ holds => holds
  | cons luid rest inductionHypothesis =>
    intro source holds
    have called := stable.call (.remove luid) holds
    have onward := inductionHypothesis _ called
    unfold stateAfter onBackend at onward ⊢
    simp only [stateAfter, on_within, wipe, on_of] at called onward ⊢
    rcases result : (Backend.remove luid).on source.backend with ⟨e | ⟨⟩, backend⟩
    · rw [result] at called onward
      cases e with
      | notFound _ => exact onward
      | _ => exact called
    · rw [result] at onward
      exact onward

theorem keeps_loadPrevious [PropertyNode ν] : (loadPrevious (β := β) (ν := ν)).Keeps P := by
  intro source holds
  simp only [stateAfter, loadPrevious, on_of]
  split
  · exact holds
  · rename_i tracking tracked
    split
    · exact holds
    · exact stable.tracking _ tracking.failed tracked holds

theorem keeps_detectChanges [PropertyNode ν] : (detectChanges (β := β) (ν := ν)).Keeps P := by
  unfold detectChanges
  refine Keeps.bind (stable.keeps_onBackend .openItems) fun _ => ?_
  refine Keeps.bind (keeps_modify fun source holds =>
    stable.session source.mode source.current true source.failure holds) fun _ => ?_
  refine Keeps.bind stable.keeps_loadPrevious fun _ => ?_
  refine Keeps.bind (stable.keeps_onBackend .list) fun revisions => ?_
  refine Keeps.bind keeps_get fun source => ?_
  split
  · exact Keeps.bind (stable.keeps_wipe revisions.keys) fun _ => keeps_pure _
  · refine Keeps.bind (keeps_modify fun source holds =>
      stable.session source.mode revisions source.isOpen source.failure holds) fun _ => ?_
    exact Keeps.bind keeps_get fun source => keeps_pure _

theorem keeps_beginSync [PropertyNode ν] (mode : SyncMode) : (beginSync (β := β) (ν := ν) mode).Keeps P := by
  unfold beginSync
  refine Keeps.bind (keeps_modify fun source holds => stable.cleared mode holds) fun _ => ?_
  split
  · exact stable.keeps_noting stable.keeps_detectChanges
  · exact keeps_pure _

omit stable in
theorem keeps_check : (check (β := β) (ν := ν)).Keeps P := by
  intro source holds
  simp only [stateAfter, check, on_of]
  cases source.failure <;> exact holds

theorem keeps_readItem (luid : Luid) : (readItem (β := β) (ν := ν) luid).Keeps P :=
  Keeps.bind keeps_check fun _ => stable.keeps_noting (stable.keeps_onBackend (.read luid))

theorem keeps_insertItem (luid : Option Luid) (content : Bytes) :
    (insertItem (β := β) (ν := ν) luid content).Keeps P := by
  unfold insertItem
  refine Keeps.bind keeps_check fun _ => ?_
  refine Keeps.bind (stable.keeps_noting (stable.keeps_onBackend (.insert luid content)))
    fun inserted => ?_
  refine Keeps.bind keeps_get fun before => ?_
  refine Keeps.bind (keeps_modify fun source holds => ?_) fun _ => keeps_pure _
  exact stable.session source.mode _ source.isOpen source.failure holds

theorem keeps_deleteItem (luid : Luid) : (deleteItem (β := β) (ν := ν) luid).Keeps P := by
  refine Keeps.bind keeps_check fun _ => stable.keeps_noting fun source holds => ?_
  have called := stable.keeps_onBackend (.remove luid) source holds
  have forgotten : ∀ {source : Source β ν}, P source →
      P { source with current := source.current.erase luid } := fun {source} holds =>
    stable.session source.mode (source.current.erase luid) source.isOpen source.failure holds
  simp only [stateAfter, on_of] at called ⊢
  rcases result : (onBackend (Backend.remove luid)).on source with ⟨e | ⟨⟩, source'⟩
  · rw [result] at called
    cases e with
    | notFound _ => exact forgotten called
    | _ => exact called
  · rw [result] at called
    exact forgotten called

end Stable

end Source

end DataSync
