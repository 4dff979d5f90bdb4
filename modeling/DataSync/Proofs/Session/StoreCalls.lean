import DataSync.Proofs.Session.Steady
import DataSync.Proofs.Source.Calls

/-!
# Calls of an engine

The accesses of an engine to items, as data, and what two states of a session have in common if they
differ in one source only.  A call leaves everything but the source that it names as it was, and what
it answers and does depends on nothing but that source and its report.
-/

namespace DataSync

open DataSync.Action

/-- A call for an item of a source. -/
structure StoreCall where
  source : String
  item : ItemCall
deriving DecidableEq

variable {β ν γ : Type} [Backend β]

namespace SessionItems

theorem on_map_access {δ : Type} (f : γ → δ) (name : String)
    (operation : Action (Source β ν) SourceError γ) (count : δ → SourceReport → SourceReport)
    (failing : SourceError → Source β ν → SourceReport → Source β ν × SourceReport)
    (items : SessionItems β ν) :
    (f <$> access name operation (fun result => count (f result)) failing).on items =
      (access name (f <$> operation) count failing).on items := by
  rw [on_map]
  simp only [access, on_of]
  cases items.accessible name with
  | error status => rfl
  | ok report =>
    cases split? name items.sources with
    | none => rfl
    | some found =>
      obtain ⟨before, source, after⟩ := found
      rcases answered : operation.on source with ⟨e | result, final⟩ <;>
        simp [on_map, answered, Except.map]

end SessionItems

/-- How a report counts what a call for an item gave. -/
def ItemCall.count : ItemCall → ItemAnswer → SourceReport → SourceReport
  | .read _, _ => SessionItems.countSent
  | .insert luid _, .inserted inserted => SessionItems.countStored luid inserted
  | .insert _ _, _ => id
  | .delete _, _ => SessionItems.countRemoved

/-- What the failure of a call for an item does to a source and its report. -/
def ItemCall.noteFailure : ItemCall → SourceError → Source β ν → SourceReport →
    Source β ν × SourceReport
  | .read luid => SessionItems.noteError (some luid)
  | .insert luid _ => SessionItems.noteError luid
  | .delete luid => SessionItems.noteUnremoved luid

/-- What a call that is let through does to a source and its report. -/
def ItemCall.settle (call : ItemCall) (source : Source β ν) (report : SourceReport) :
    Except ItemStatus ItemAnswer × Source β ν × SourceReport :=
  match call.perform.on source with
  | (.ok answer, source) => (.ok answer, source, call.count answer report)
  | (.error e, source) => (.error (ItemStatus.ofError e), call.noteFailure e source report)

/-! ## Reports of failures -/

theorem ItemStatus.ofError_eq_datastoreFailure {e : SourceError} :
    ItemStatus.ofError e = .datastoreFailure ↔ e.isFatal = true := by
  cases e with
  | backend source reason fatal => cases fatal <;> simp [ItemStatus.ofError, SourceError.isFatal]
  | _ => simp [ItemStatus.ofError, SourceError.isFatal]

theorem SourceReport.mode_failStore (report : SourceReport) (reason : String) :
    (report.failStore reason).mode = report.mode := by
  unfold failStore fail
  split <;> rfl

theorem SourceReport.isSuccess_failStore (report : SourceReport) (reason : String) :
    (report.failStore reason).status.isSuccess = false := by
  unfold failStore fail
  split
  · rfl
  · simp_all

namespace SessionItems

omit [Backend β] in
theorem noteError_report (luid : Option Luid) (e : SourceError) (source : Source β ν)
    (report : SourceReport) :
    (noteError luid e source report).1.failure = source.failure ∧
      (noteError luid e source report).2.mode = report.mode ∧
      ((noteError luid e source report).2.status.isSuccess = true ↔
        report.status.isSuccess = true ∧ e.isFatal = false) := by
  cases fatal : e.isFatal with
  | true =>
    simp only [noteError, fatal, if_true]
    refine ⟨trivial, SourceReport.mode_failStore _ _, ?_⟩
    rw [SourceReport.isSuccess_failStore]
    simp
  | false => cases luid <;> simp [noteError, fatal, Source.recordFailure]

end SessionItems

omit [Backend β] in
theorem ItemCall.noteFailure_report (call : ItemCall) (e : SourceError) (source : Source β ν)
    (report : SourceReport) :
    (call.noteFailure e source report).1.failure = source.failure ∧
      (call.noteFailure e source report).2.mode = report.mode ∧
      ((call.noteFailure e source report).2.status.isSuccess = true ↔
        report.status.isSuccess = true ∧ e.isFatal = false) := by
  cases call with
  | read luid => exact SessionItems.noteError_report _ e source report
  | insert luid content => exact SessionItems.noteError_report _ e source report
  | delete luid =>
    cases e with
    | notFound missing => simp [noteFailure, SessionItems.noteUnremoved, SourceError.isFatal]
    | _ => exact SessionItems.noteError_report _ _ source report

/-- Only a failure of the data store spoils the report of a source. -/
theorem ItemCall.settle_report (call : ItemCall) (source : Source β ν) (report : SourceReport) :
    (call.settle source report).2.2.mode = report.mode ∧
      ((call.settle source report).2.2.status.isSuccess = true ↔
        report.status.isSuccess = true ∧
          (call.settle source report).1 ≠ .error .datastoreFailure) := by
  unfold settle
  rcases call.perform.on source with ⟨e | answer, final⟩
  · obtain ⟨-, mode, good⟩ := call.noteFailure_report e final report
    refine ⟨mode, ?_⟩
    simp [good, ItemStatus.ofError_eq_datastoreFailure]
  · cases call <;> cases answer <;>
      simp [count, SessionItems.countSent, SessionItems.countStored, SessionItems.countRemoved]

/-- A source whose report is still good after a call has not failed. -/
theorem ItemCall.failure_settle {call : ItemCall} {source : Source β ν} {report : SourceReport}
    (sound : source.failure = none)
    (good : (call.settle source report).2.2.status.isSuccess = true) :
    (call.settle source report).2.1.failure = none := by
  have unspoilt := ((call.settle_report source report).2.1 good).2
  have kept := call.failure_perform sound
  unfold stateAfter at kept
  unfold settle at unspoilt ⊢
  rcases performed : call.perform.on source with ⟨e | answer, final⟩
  · rw [performed] at unspoilt kept
    have harmless : e.isFatal = false := by
      simpa [ItemStatus.ofError_eq_datastoreFailure] using unspoilt
    rw [(call.noteFailure_report e final report).1]
    exact kept (by rintro _ ⟨⟩; exact harmless)
  · rw [performed] at kept
    exact kept nofun

namespace StoreCall

/-- Make a call. -/
def perform (call : StoreCall) : Action (SessionItems β ν) ItemStatus ItemAnswer :=
  match call.item with
  | .read luid => .content <$> SessionItems.readItem call.source luid
  | .insert luid content => .inserted <$> SessionItems.insertItem call.source luid content
  | .delete luid => (fun _ => .deleted) <$> SessionItems.deleteItem call.source luid

/-- All calls are accesses that differ in what they do to the source, and in how that counts. -/
theorem on_perform (call : StoreCall) (items : SessionItems β ν) :
    call.perform.on items =
      (SessionItems.access call.source call.item.perform call.item.count
        call.item.noteFailure).on items := by
  obtain ⟨name, item⟩ := call
  cases item with
  | read luid =>
    exact SessionItems.on_map_access ItemAnswer.content name (Source.readItem luid)
      (ItemCall.read luid).count (ItemCall.read luid).noteFailure items
  | insert luid content =>
    exact SessionItems.on_map_access ItemAnswer.inserted name (Source.insertItem luid content)
      (ItemCall.insert luid content).count (ItemCall.insert luid content).noteFailure items
  | delete luid =>
    exact SessionItems.on_map_access (fun _ => ItemAnswer.deleted) name (Source.deleteItem luid)
      (ItemCall.delete luid).count (ItemCall.delete luid).noteFailure items

variable {call : StoreCall} {items : SessionItems β ν}

theorem on_perform_of_inaccessible {status : ItemStatus}
    (inaccessible : items.accessible call.source = .error status) :
    call.perform.on items = (.error status, items) := by
  rw [on_perform, SessionItems.access, on_of, inaccessible]

theorem on_perform_of_missing {report : SourceReport}
    (accessible : items.accessible call.source = .ok report)
    (missing : SessionItems.split? call.source items.sources = none) :
    call.perform.on items = (.error .notFound, items) := by
  simp only [on_perform, SessionItems.access, on_of, accessible, missing]

theorem on_perform_of_found {report : SourceReport} {before after : List (Source β ν)}
    {source : Source β ν} (accessible : items.accessible call.source = .ok report)
    (found : SessionItems.split? call.source items.sources = some (before, source, after)) :
    call.perform.on items = ((call.item.settle source report).1,
      { sources := before ++ (call.item.settle source report).2.1 :: after
        reports := items.reports.insert call.source (call.item.settle source report).2.2 }) := by
  simp only [on_perform, SessionItems.access, on_of, accessible, found, ItemCall.settle]
  rcases call.item.perform.on source with ⟨_ | _, _⟩ <;> rfl

end StoreCall

namespace SessionItems

/-- The items after calls, one after the other. -/
def after (calls : List StoreCall) (items : SessionItems β ν) : SessionItems β ν :=
  calls.foldl (fun items call => call.perform.stateAfter items) items

/-! ## Everything but one source -/

/-- Sources without those of a name, whose places are kept. -/
def sourcesBeyond (name : String) (sources : List (Source β ν)) : List (Option (Source β ν)) :=
  sources.map fun source => if source.name = name then none else some source

/-- Everything that there is beyond the sources of a name and their report. -/
def beyond (name : String) (items : SessionItems β ν) :
    List (Option (Source β ν)) × Table SourceReport :=
  (sourcesBeyond name items.sources, items.reports.erase name)

theorem erase_eq_erase_iff {κ : Type} {key : String} {one two : Table κ} :
    one.erase key = two.erase key ↔ ∀ other, other ≠ key → one.get? other = two.get? other := by
  constructor
  · intro same other different
    simpa [different] using congrArg (fun table => Table.get? table other) same
  · intro same
    refine Table.ext_get? fun other => ?_
    by_cases here : other = key
    · simp [here]
    · simp [here, same other here]

variable {name : String} {items first second : SessionItems β ν}

theorem reports_of_beyond (alike : first.beyond name = second.beyond name) {other : String}
    (different : other ≠ name) : first.reports.get? other = second.reports.get? other :=
  erase_eq_erase_iff.1 (congrArg Prod.snd alike) other different

theorem name_of_split? {sources before rest : List (Source β ν)} {source : Source β ν}
    (found : split? name sources = some (before, source, rest)) : source.name = name := by
  induction sources generalizing before with
  | nil => cases found
  | cons head tail inductionHypothesis =>
    unfold split? at found
    split at found
    · cases found
      assumption
    · obtain ⟨⟨earlier, other, later⟩, foundLater, equal⟩ := Option.map_eq_some_iff.1 found
      cases equal
      exact inductionHypothesis foundLater

/-- Lists of sources differ in the sources of a name only if their heads are the same source or both
of the name. -/
theorem sourcesBeyond_cons_eq {source other : Source β ν} {rest others : List (Source β ν)} :
    sourcesBeyond name (source :: rest) = sourcesBeyond name (other :: others) ↔
      (source.name = name ∧ other.name = name ∨ source.name ≠ name ∧ source = other) ∧
        sourcesBeyond name rest = sourcesBeyond name others := by
  simp only [sourcesBeyond, List.map_cons, List.cons_eq_cons]
  refine and_congr_left fun _ => ?_
  by_cases here : source.name = name <;> by_cases here' : other.name = name
  · simp [here, here']
  · simp [here, here']
  · simp only [here, here', if_false, if_true, reduceCtorEq, false_and, false_or, ne_eq,
      not_false_eq_true, true_and, false_iff]
    rintro rfl
    exact here here'
  · simp [here, here']

/-- A source is found in the same place in lists that differ beyond it. -/
theorem split?_of_beyond {other : String} (different : other ≠ name)
    {sources others : List (Source β ν)}
    (alike : sourcesBeyond name sources = sourcesBeyond name others) :
    split? other sources = none ∧ split? other others = none ∨
      ∃ before source after before' after',
        split? other sources = some (before, source, after) ∧
        split? other others = some (before', source, after') ∧
        sourcesBeyond name before = sourcesBeyond name before' ∧
        sourcesBeyond name after = sourcesBeyond name after' := by
  induction sources generalizing others with
  | nil =>
    obtain rfl := List.map_eq_nil_iff.1 alike.symm
    exact .inl ⟨rfl, rfl⟩
  | cons source rest inductionHypothesis =>
    cases others with
    | nil => cases alike
    | cons source' rest' =>
      obtain ⟨sameHead, sameRest⟩ := sourcesBeyond_cons_eq.1 alike
      by_cases here : source.name = other
      · obtain ⟨named, -⟩ | ⟨-, rfl⟩ := sameHead
        · exact absurd (here.symm.trans named) different
        · exact .inr ⟨[], source, rest, [], rest', by simp [split?, here], by simp [split?, here],
            rfl, sameRest⟩
      · have elsewhere : source'.name ≠ other := by
          obtain ⟨-, named⟩ | ⟨-, rfl⟩ := sameHead
          · rw [named]
            exact different.symm
          · exact here
        obtain ⟨absent, absent'⟩ | ⟨before, found, after, before', after', split, split', one, two⟩ :=
          inductionHypothesis sameRest
        · exact .inl ⟨by simp [split?, here, absent], by simp [split?, elsewhere, absent']⟩
        -- Both heads are passed over: they are the same source, or both of the other name.
        · exact .inr ⟨source :: before, found, after, source' :: before', after',
            by simp [split?, here, split], by simp [split?, elsewhere, split'],
            sourcesBeyond_cons_eq.2 ⟨sameHead, one⟩, two⟩

/-! ## Single calls -/

theorem beyond_replace {before after : List (Source β ν)} {source final : Source β ν}
    {reports : Table SourceReport} (named : source.name = name) (kept : final.name = source.name)
    (report : SourceReport) :
    beyond name { sources := before ++ final :: after, reports := reports.insert name report } =
      beyond name { sources := before ++ source :: after, reports } := by
  refine Prod.ext ?_ (erase_eq_erase_iff.2 fun other different => ?_)
  · simp [beyond, sourcesBeyond, kept, named]
  · simp [different]

end SessionItems

/-! ## Names of sources -/

section Names

variable [NamedBackend β] [PropertyNode ν]

/-- A call for an item leaves the source its name. -/
theorem ItemCall.name_settle (call : ItemCall) (source : Source β ν) (report : SourceReport) :
    (call.settle source report).2.1.name = source.name := by
  have stable := (Source.Fixed.name (β := β) (ν := ν)).stable source.name
  have performed : (call.perform.stateAfter source).name = source.name := by
    cases call with
    | read luid =>
      rw [perform, stateAfter_map]
      exact stable.keeps_readItem luid source rfl
    | insert luid content =>
      rw [perform, stateAfter_map]
      exact stable.keeps_insertItem luid content source rfl
    | delete luid =>
      rw [perform, stateAfter_map]
      exact stable.keeps_deleteItem luid source rfl
  unfold settle
  unfold stateAfter at performed
  rcases answered : call.perform.on source with ⟨e | answer, final⟩
  · rw [answered] at performed
    refine Eq.trans ?_ performed
    cases call with
    | read luid => exact (SessionItems.steady_noteError .name _ e final report).1
    | insert luid content => exact (SessionItems.steady_noteError .name _ e final report).1
    | delete luid => exact (SessionItems.steady_noteUnremoved .name luid e final report).1
  · rw [answered] at performed
    exact performed

/-- A call changes nothing beyond the source that it names and the report of this source. -/
theorem StoreCall.beyond_perform (call : StoreCall) (items : SessionItems β ν) :
    (call.perform.stateAfter items).beyond call.source = items.beyond call.source := by
  unfold stateAfter
  rcases accessible : items.accessible call.source with status | report
  · rw [on_perform_of_inaccessible accessible]
  rcases found : SessionItems.split? call.source items.sources with _ | ⟨before, source, after⟩
  · rw [on_perform_of_missing accessible found]
  rw [on_perform_of_found accessible found]
  obtain ⟨sources, reports⟩ := items
  obtain rfl := SessionItems.sources_of_split? found
  exact SessionItems.beyond_replace (SessionItems.name_of_split? found)
    (call.item.name_settle source report) _

end Names

/-- A call gives the same answer, and leaves the same behind, in states that differ in another source
only. -/
theorem StoreCall.perform_alike {name : String} {first second : SessionItems β ν} (call : StoreCall)
    (different : call.source ≠ name) (alike : first.beyond name = second.beyond name) :
    (call.perform.on first).1 = (call.perform.on second).1 ∧
      (call.perform.stateAfter first).beyond name = (call.perform.stateAfter second).beyond name := by
  -- Whether the call is let through depends on the report of its own source only.
  have reported := SessionItems.reports_of_beyond alike different
  have same : first.accessible call.source = second.accessible call.source := by
    unfold SessionItems.accessible
    rw [reported]
  unfold stateAfter
  rcases accessible : second.accessible call.source with status | report
  · rw [on_perform_of_inaccessible accessible, on_perform_of_inaccessible (same.trans accessible)]
    exact ⟨rfl, alike⟩
  obtain ⟨absent, absent'⟩ | ⟨before, source, after, before', after', found, found', one, two⟩ :=
    SessionItems.split?_of_beyond different (congrArg Prod.fst alike)
  · rw [on_perform_of_missing accessible absent', on_perform_of_missing (same.trans accessible) absent]
    exact ⟨rfl, alike⟩
  · rw [on_perform_of_found accessible found', on_perform_of_found (same.trans accessible) found]
    refine ⟨rfl, Prod.ext ?_ (SessionItems.erase_eq_erase_iff.2 fun other elsewhere => ?_)⟩
    · simp only [SessionItems.sourcesBeyond] at one two
      simp [SessionItems.beyond, SessionItems.sourcesBeyond, one, two]
    · simp [SessionItems.reports_of_beyond alike elsewhere]

end DataSync
