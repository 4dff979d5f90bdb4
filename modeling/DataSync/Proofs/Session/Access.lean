import DataSync.Session.Items

/-!
# Accesses of a session

An access to an item goes to the first source of a name and may change this source and its report, but
nothing else.
-/

namespace DataSync

namespace SessionItems

open DataSync.Action

variable {β ν γ : Type}

/-- A source can be accessed if it takes part and has a good report. -/
theorem accessible_eq_ok {name : String} {items : SessionItems β ν} {report : SourceReport} :
    items.accessible name = .ok report ↔ items.reports.get? name = some report ∧
      report.status.isSuccess = true ∧ report.mode.isEnabled = true := by
  unfold accessible
  cases items.reports.get? name with
  | none => simp
  | some found =>
    simp only [Option.some.injEq]
    split
    · rename_i usable
      rw [Bool.and_eq_true] at usable
      constructor
      · rintro ⟨⟩
        exact ⟨rfl, usable⟩
      · rintro ⟨rfl, -⟩
        rfl
    · rename_i unusable
      simp only [reduceCtorEq, false_iff]
      rintro ⟨rfl, good, enabled⟩
      simp [good, enabled] at unusable

variable [Backend β]

theorem sources_of_split? {name : String} {sources before after : List (Source β ν)}
    {source : Source β ν} (found : split? name sources = some (before, source, after)) :
    sources = before ++ source :: after := by
  induction sources generalizing before with
  | nil => cases found
  | cons head rest inductionHypothesis =>
    unfold split? at found
    split at found
    · cases found
      rfl
    · obtain ⟨⟨earlier, other, later⟩, foundLater, equal⟩ := Option.map_eq_some_iff.1 found
      cases equal
      rw [inductionHypothesis foundLater]
      rfl

/-- An access changes nothing, or the one source that it goes to and its report. -/
theorem access_cases (name : String) (operation : Action (Source β ν) SourceError γ)
    (count : γ → SourceReport → SourceReport)
    (failing : SourceError → Source β ν → SourceReport → Source β ν × SourceReport)
    (items : SessionItems β ν) :
    (access name operation count failing).stateAfter items = items ∨
      ∃ report before source after final finalReport,
        items.reports.get? name = some report ∧ items.sources = before ++ source :: after ∧
        (access name operation count failing).stateAfter items =
          { sources := before ++ final :: after
            reports := items.reports.insert name finalReport } ∧
        ((∃ result, operation.on source = (.ok result, final) ∧
            finalReport = count result report) ∨
          ∃ e failed, operation.on source = (.error e, failed) ∧
            failing e failed report = (final, finalReport)) := by
  simp only [stateAfter, access, on_of]
  rcases accessible : items.accessible name with status | report
  · exact .inl rfl
  rcases found : split? name items.sources with _ | ⟨before, source, after⟩
  · exact .inl rfl
  have reported := (accessible_eq_ok.1 accessible).1
  have sources := sources_of_split? found
  refine .inr ⟨report, before, source, after, ?_⟩
  rcases answered : operation.on source with ⟨e | result, final⟩
  · exact ⟨(failing e final report).1, (failing e final report).2, reported, sources,
      by simp only [answered], .inr ⟨e, final, rfl, rfl⟩⟩
  · exact ⟨final, count result report, reported, sources,
      by simp only [answered], .inl ⟨result, rfl, rfl⟩⟩

end SessionItems

end DataSync
