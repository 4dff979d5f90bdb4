import DataSync.Proofs.Session.StoreCalls
import DataSync.Rehearsal.ScriptedBackend
import DataSync.Storage.MemoryNode
import Mathlib.Data.List.Nodup

/-!
# Isolation of sources

A session works on its sources as if each were alone: a call changes only the source that it names, a
source that failed is not touched any more, and what becomes of one source makes no difference to the
others.
-/

namespace DataSync

open DataSync.Action

variable {β ν : Type} [Backend β]

namespace SessionItems

variable {name : String} {items first second : SessionItems β ν}

theorem after_cons (call : StoreCall) (later : List StoreCall) (items : SessionItems β ν) :
    items.after (call :: later) = (call.perform.stateAfter items).after later := rfl

theorem after_append (earlier later : List StoreCall) (items : SessionItems β ν) :
    items.after (earlier ++ later) = (items.after earlier).after later :=
  List.foldl_append

/-! ## All calls -/

/-- In states that differ in one source only, the same calls leave the same behind but for this
source. -/
theorem beyond_after [NamedBackend β] [PropertyNode ν] (alike : first.beyond name = second.beyond name)
    (calls : List StoreCall) : (first.after calls).beyond name = (second.after calls).beyond name := by
  induction calls generalizing first second with
  | nil => exact alike
  | cons call rest inductionHypothesis =>
    rw [after_cons, after_cons]
    apply inductionHypothesis
    -- A call of this source leaves all others alone in both states, one of another source is the
    -- same call in both.
    by_cases here : call.source = name
    · obtain rfl := here
      rw [call.beyond_perform, call.beyond_perform]
      exact alike
    · exact (call.perform_alike here alike).2

/-- A source that cannot be accessed stays so, whatever is called for. -/
theorem accessible_after [NamedBackend β] [PropertyNode ν] {status : ItemStatus}
    (inaccessible : items.accessible name = .error status) (calls : List StoreCall) :
    (items.after calls).accessible name = .error status := by
  induction calls generalizing items with
  | nil => exact inaccessible
  | cons call rest inductionHypothesis =>
    rw [after_cons]
    apply inductionHypothesis
    -- A call of the source itself is turned away, one of another source leaves the report alone.
    by_cases here : name = call.source
    · obtain rfl := here
      have unchanged : call.perform.stateAfter items = items := by
        rw [stateAfter, StoreCall.on_perform_of_inaccessible inaccessible]
      rwa [unchanged]
    · have reported := reports_of_beyond (call.beyond_perform items) here
      unfold accessible at inaccessible ⊢
      rwa [reported]

theorem split?_eq_none_iff {sources : List (Source β ν)} :
    split? name sources = none ↔ ∀ source ∈ sources, source.name ≠ name := by
  induction sources with
  | nil => simp [split?]
  | cons head rest inductionHypothesis =>
    by_cases here : head.name = name <;> simp [split?, here, inductionHypothesis]

/-! ## Failures -/

omit [Backend β] in
/-- A source whose report tells of a failure cannot be accessed. -/
theorem accessible_of_failed {report : SourceReport} (reported : items.reports.get? name = some report)
    (failed : report.status.isSuccess = false) :
    items.accessible name = .error .datastoreFailure := by
  simp [accessible, reported, failed]

variable [PropertyNode ν]

/-! ## The beginning -/

/-- The items of a session whose sources have just begun. -/
def begun (config : SyncConfig) (sources : List (Source β ν)) : SessionItems β ν :=
  (beginAll config .empty [] sources).1

section Beginning

variable [NamedBackend β] (config : SyncConfig) {name : String}

theorem name_beginSource (source : Source β ν) :
    (beginSource config source).1.name = source.name :=
  feature_beginSource .name config source

/-- The beginning of a source enters nothing under other names. -/
theorem report_beginAll {sources : List (Source β ν)} (absent : name ∉ sources.map Source.name)
    (reports : Table SourceReport) (offers : List SourceOffer) :
    (beginAll config reports offers sources).1.reports.get? name = reports.get? name := by
  induction sources generalizing reports offers with
  | nil => rfl
  | cons source rest inductionHypothesis =>
    simp only [List.map_cons, List.mem_cons, not_or] at absent
    have named := name_beginSource config source
    rw [beginAll, inductionHypothesis absent.2, Table.get?_insert, if_neg]
    rw [named]
    exact absent.1

/-- Under the name of each source stands what its beginning reports. -/
theorem report_beginAll_of_mem {sources : List (Source β ν)}
    (distinct : (sources.map Source.name).Nodup) {source : Source β ν} (member : source ∈ sources)
    (reports : Table SourceReport) (offers : List SourceOffer) :
    (beginAll config reports offers sources).1.reports.get? source.name =
      some (beginSource config source).2.1 := by
  induction sources generalizing reports offers with
  | nil => cases member
  | cons head rest inductionHypothesis =>
    obtain ⟨absent, restDistinct⟩ := List.nodup_cons.1 distinct
    -- The sources that begin later have other names, so they leave the report alone.
    rcases List.mem_cons.1 member with rfl | member
    · rw [beginAll, report_beginAll config absent, Table.get?_insert,
        if_pos (name_beginSource config source).symm]
    · exact inductionHypothesis restDistinct member _ _

/-- Sources that differ in one begin alike beyond it. -/
theorem beyond_beginAll {sources others : List (Source β ν)} {reports otherReports : Table SourceReport}
    (alike : sourcesBeyond name sources = sourcesBeyond name others)
    (reported : reports.erase name = otherReports.erase name) (offers otherOffers : List SourceOffer) :
    (beginAll config reports offers sources).1.beyond name =
      (beginAll config otherReports otherOffers others).1.beyond name := by
  induction sources generalizing others reports otherReports offers otherOffers with
  | nil =>
    obtain rfl := List.map_eq_nil_iff.1 alike.symm
    simp [beginAll, beyond, reported]
  | cons source rest inductionHypothesis =>
    cases others with
    | nil => cases alike
    | cons other otherRest =>
      obtain ⟨sameHead, sameRest⟩ := sourcesBeyond_cons_eq.1 alike
      have named := name_beginSource config source
      have named' := name_beginSource config other
      have begunHead : (beginSource config source).1.name = name ∧
            (beginSource config other).1.name = name ∨
          (beginSource config source).1.name ≠ name ∧
            beginSource config source = beginSource config other := by
        rw [named, named']
        exact sameHead.imp_right (And.imp_right (congrArg (beginSource config)))
      have begunReports : (reports.insert (beginSource config source).1.name
            (beginSource config source).2.1).erase name =
          (otherReports.insert (beginSource config other).1.name
            (beginSource config other).2.1).erase name := by
        refine erase_eq_erase_iff.2 fun key elsewhere => ?_
        have same := erase_eq_erase_iff.1 reported key elsewhere
        obtain ⟨here, here'⟩ | ⟨-, begunSame⟩ := begunHead
        · simp [here, here', elsewhere, same]
        · simp [begunSame, same]
      have next := inductionHypothesis sameRest begunReports
        (offers ++ (beginSource config source).2.2.toList)
        (otherOffers ++ (beginSource config other).2.2.toList)
      have nextSources := congrArg Prod.fst next
      have nextReports := congrArg Prod.snd next
      refine Prod.ext (sourcesBeyond_cons_eq.2 ⟨?_, nextSources⟩) nextReports
      exact begunHead.imp_right (And.imp_right (congrArg Prod.fst))

end Beginning

/-! ## Isolation -/

/-- A source of a session failed to begin, or a call for one of its items met a failure of its data
store. -/
inductive StoreFailed (config : SyncConfig) (sources : List (Source β ν)) (name : String)
    (calls : List StoreCall) : Prop where
  | begin {source failed : Source β ν} {e : SourceError} :
      source ∈ sources → source.name = name → (config.modeFor name).isEnabled = true →
      (Source.beginSync (config.modeFor name)).on source = (.error e, failed) →
      StoreFailed config sources name calls
  | item {earlier later : List StoreCall} {call : StoreCall} {source failed : Source β ν}
      {e : SourceError} :
      calls = earlier ++ call :: later → call.source = name →
      source ∈ ((begun config sources).after earlier).sources → source.name = name →
      call.item.perform.on source = (.error e, failed) → e.isFatal = true →
      StoreFailed config sources name calls

variable [NamedBackend β] {config : SyncConfig} {sources : List (Source β ν)}

omit [NamedBackend β] in
theorem keeps_perform {P : SessionItems β ν → Prop} (invariant : Invariant P) (call : StoreCall) :
    call.perform.Keeps P := by
  obtain ⟨name, item⟩ := call
  intro items holds
  cases item with
  | read luid =>
    rw [StoreCall.perform, stateAfter_map]
    exact invariant.readItem name luid items holds
  | insert luid content =>
    rw [StoreCall.perform, stateAfter_map]
    exact invariant.insertItem name luid content items holds
  | delete luid =>
    rw [StoreCall.perform, stateAfter_map]
    exact invariant.deleteItem name luid items holds

omit [NamedBackend β] in
theorem invariant_after {P : SessionItems β ν → Prop} (invariant : Invariant P)
    {items : SessionItems β ν} (holds : P items) (calls : List StoreCall) : P (items.after calls) := by
  induction calls generalizing items with
  | nil => exact holds
  | cons call rest inductionHypothesis =>
    exact inductionHypothesis (keeps_perform invariant call items holds)

/-- The sources of a session keep their names, and there is a report for each of them. -/
theorem steady_begun_after (config : SyncConfig) (sources : List (Source β ν))
    (calls : List StoreCall) :
    ((begun config sources).after calls).Steady Source.name (sources.map Source.name)
      (sources.map Source.name) := by
  have steady := steady_beginAll Source.Fixed.name config sources .empty [] Uncommitted.empty
  refine invariant_after (steady_invariant .name _ _)
    ⟨steady.features_eq, fun name member => steady.reported name ?_, steady.uncommitted⟩ calls
  rw [steady.features_eq]
  exact List.mem_append_right _ member

omit [PropertyNode ν] [NamedBackend β] in
theorem isSuccess_settle_of_refused {call : ItemCall} {source failed : Source β ν}
    {e : SourceError} (refused : call.perform.on source = (.error e, failed))
    (fatal : e.isFatal = true) (report : SourceReport) :
    (call.settle source report).2.2.status.isSuccess = false := by
  rw [Bool.eq_false_iff]
  intro good
  refine ((call.settle_report source report).2.1 good).2 ?_
  simp [ItemCall.settle, refused, ItemStatus.ofError_eq_datastoreFailure, fatal]

omit [PropertyNode ν] [NamedBackend β] in
/-- A call that meets a failure of the data store makes the source inaccessible. -/
theorem accessible_of_struck {items : SessionItems β ν} {names : List String}
    (steady : items.Steady Source.name names names) (distinct : names.Nodup) {call : StoreCall}
    {source failed : Source β ν} (member : source ∈ items.sources) (named : source.name = call.source)
    {e : SourceError} (refused : call.item.perform.on source = (.error e, failed))
    (fatal : e.isFatal = true) :
    (call.perform.stateAfter items).accessible call.source = .error .datastoreFailure := by
  have member' : call.source ∈ names := by
    rw [← steady.features_eq, ← named]
    exact List.mem_map_of_mem member
  obtain ⟨report, reported⟩ := Option.isSome_iff_exists.1 (steady.reported _ member')
  unfold stateAfter
  rcases accessible : items.accessible call.source with status | report
  · rw [StoreCall.on_perform_of_inaccessible accessible]
    unfold SessionItems.accessible at accessible ⊢
    rw [reported] at accessible ⊢
    dsimp only at accessible ⊢
    split at accessible
    · cases accessible
    · rw [if_neg ‹_›]
  rcases found : split? call.source items.sources with _ | ⟨before, other, after⟩
  · exact absurd named (split?_eq_none_iff.1 found source member)
  -- The names are distinct, so the source that is found is the one that fails.
  obtain rfl : other = source := by
    rw [← steady.features_eq] at distinct
    refine List.inj_on_of_nodup_map distinct ?_ member ((name_of_split? found).trans named.symm)
    rw [sources_of_split? found]
    simp
  rw [StoreCall.on_perform_of_found accessible found]
  exact accessible_of_failed (Table.get?_insert ..|>.trans (if_pos rfl))
    (isSuccess_settle_of_refused refused fatal report)

theorem accessible_of_storeFailed {name : String} {calls : List StoreCall}
    (distinct : (sources.map Source.name).Nodup) (failed : StoreFailed config sources name calls) :
    ((begun config sources).after calls).accessible name = .error .datastoreFailure := by
  cases failed with
  | begin member named enabled refused =>
    obtain rfl := named
    refine accessible_after (accessible_of_failed
      (report_beginAll_of_mem config distinct member .empty []) ?_) calls
    simp [beginSource, enabled, refused, SourceReport.isSuccess_failStore]
  | @item earlier later call source failed e split here member named refused fatal =>
    subst split
    obtain rfl := here
    rw [after_append, after_cons]
    exact accessible_after (accessible_of_struck (steady_begun_after config sources earlier) distinct
      member named refused fatal) later

/-- In a session over sources of different names, whatever is called for:
a call changes nothing beyond the source that it names, and nothing at all if there is none of the
name; a source that failed to begin, or in which a call met a failure of the data store, answers every
later call with this failure and is not touched; and the calls for other sources get the same answers
as in every session in which the sources of one name are other ones, such as one that does not fail. -/
theorem sources_isolated (config : SyncConfig) (sources : List (Source β ν))
    (distinct : (sources.map Source.name).Nodup) :
    (∀ (calls : List StoreCall) (call : StoreCall),
      (call.perform.stateAfter ((begun config sources).after calls)).beyond call.source =
        ((begun config sources).after calls).beyond call.source ∧
      (call.source ∉ sources.map Source.name →
        call.perform.on ((begun config sources).after calls) =
          (.error .notFound, (begun config sources).after calls))) ∧
    (∀ (name : String) (calls : List StoreCall), StoreFailed config sources name calls →
      ∀ call : StoreCall, call.source = name →
        call.perform.on ((begun config sources).after calls) =
          (.error .datastoreFailure, (begun config sources).after calls)) ∧
    ∀ (name : String) (others : List (Source β ν)),
      sourcesBeyond name sources = sourcesBeyond name others →
      ∀ (calls : List StoreCall) (call : StoreCall), call.source ≠ name →
        (call.perform.on ((begun config sources).after calls)).1 =
          (call.perform.on ((begun config others).after calls)).1 := by
  refine ⟨fun calls call => ⟨call.beyond_perform _, fun unknown => ?_⟩, ?_, ?_⟩
  · have unreported : (begun config sources).reports.get? call.source = none :=
      report_beginAll config unknown .empty []
    refine StoreCall.on_perform_of_inaccessible (accessible_after ?_ calls)
    rw [accessible, unreported]
  · rintro name calls failed call rfl
    exact StoreCall.on_perform_of_inaccessible (accessible_of_storeFailed distinct failed)
  · intro name others alike calls call elsewhere
    have begunAlike : (begun config sources).beyond name = (begun config others).beyond name :=
      beyond_beginAll config alike rfl [] []
    exact (call.perform_alike elsewhere (beyond_after begunAlike calls)).1

/-- Two sources, the first of which may fail. -/
def notesAndMail (failures : List (BackendCall × SourceError)) :
    List (Source ScriptedBackend MemoryNode) :=
  [{ backend := { memory := .withItems [("1", [97])] { name := "notes" }, failures } },
    { backend := { memory := .withItems [("1", [98])] { name := "mail" } } }]

/-- The two sources, of which the first cannot be read. -/
def brokenNotesAndMail : List (Source ScriptedBackend MemoryNode) :=
  notesAndMail [(.reading, .io (.ofKind .brokenPipe))]

def readOf (source : String) : StoreCall :=
  ⟨source, .read "1"⟩

theorem broken_notes_isolated :
    (brokenNotesAndMail.map Source.name).Nodup ∧
    StoreFailed { name := "work" } brokenNotesAndMail "notes" [readOf "notes"] ∧
    (readOf "notes").perform.on
        ((begun { name := "work" } brokenNotesAndMail).after [readOf "notes"]) =
      (.error .datastoreFailure,
        (begun { name := "work" } brokenNotesAndMail).after [readOf "notes"]) ∧
    sourcesBeyond "notes" brokenNotesAndMail = sourcesBeyond "notes" (notesAndMail []) ∧
    ((readOf "mail").perform.on
        ((begun { name := "work" } brokenNotesAndMail).after [readOf "notes"])).1 =
      ((readOf "mail").perform.on
        ((begun { name := "work" } (notesAndMail [])).after [readOf "notes"])).1 := by
  have distinct : (brokenNotesAndMail.map Source.name).Nodup := by decide
  have failed : StoreFailed { name := "work" } brokenNotesAndMail "notes" [readOf "notes"] :=
    .item (show [readOf "notes"] = [] ++ readOf "notes" :: [] from rfl) rfl (.head _) rfl rfl rfl
  have alike : sourcesBeyond "notes" brokenNotesAndMail = sourcesBeyond "notes" (notesAndMail []) :=
    rfl
  obtain ⟨-, refused, others⟩ := sources_isolated { name := "work" } brokenNotesAndMail distinct
  exact ⟨distinct, failed, refused _ _ failed _ rfl, alike,
    others _ _ alike _ _ (by decide)⟩

end SessionItems

end DataSync
