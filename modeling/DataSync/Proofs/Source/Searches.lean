import DataSync.Proofs.InTurn
import DataSync.Proofs.Keeps
import DataSync.Proofs.Source.Allocation

/-!
# Searches for an identifier

An allocator that is given a test shows it the numbers that are left, one after the other, and stops at
the first one that is not taken or for which the test fails.  So its answer is that of the last inquiry,
and there is none to give exactly if the test says of all numbers left that they are taken.
-/

namespace DataSync.IdAllocator

open DataSync.Action

variable {σ : Type} {a b : IdAllocator} {asked : List Inquiry} {answer : Except SourceError Luid}
  {taken : Luid → Action σ SourceError Bool}

/-! ## Numbers left -/

/-- The numbers that an allocator can still give, the next one first. -/
def left (a : IdAllocator) : List Nat :=
  List.range' a.next (numericLimit - a.next)

theorem peek?_eq_head?_left (a : IdAllocator) : a.peek? = a.left.head? := by
  have none_iff : numericLimit - a.next = 0 ↔ ¬ a.next < numericLimit := by omega
  rw [peek?, left, List.head?_range']
  simp only [none_iff, ite_not]

theorem left_of_full (full : a.next = numericLimit) : a.left = [] := by
  rw [left, full, Nat.sub_self]
  rfl

theorem left_of_more (more : a.next < numericLimit) :
    a.left = a.next :: left ⟨a.next + 1, more⟩ := by
  have some_left : numericLimit - a.next = (numericLimit - (a.next + 1)) + 1 := by omega
  rw [left, some_left, List.range'_succ, left]

theorem left_of_next_eq {count : Nat} (next : b.next = a.next + count) :
    b.left = a.left.drop count := by
  rw [left, left, List.drop_range', next, Nat.mul_one, Nat.sub_add_eq]

/-! ## Ends of a search -/

/-- All that a test was asked about was taken. -/
def AllTaken (asked : List Inquiry) : Prop :=
  ∀ inquiry ∈ asked, inquiry.2 = .ok true

/-- How a search ends: everything was taken that was asked about before the end. -/
inductive Ends (a : IdAllocator) : List Inquiry → Except SourceError Luid → Prop where
  | free {before : List Inquiry} (luid : Luid) (busy : AllTaken before) :
      Ends a (before ++ [(luid, .ok false)]) (.ok luid)
  | failed {before : List Inquiry} (luid : Luid) (e : SourceError) (busy : AllTaken before) :
      Ends a (before ++ [(luid, .error e)]) (.error e)
  | exhausted {asked : List Inquiry} (busy : AllTaken asked) (all : asked.length = a.left.length) :
      Ends a asked (.error .idSpaceExhausted)

theorem AllTaken.cons (luid : Luid) (busy : AllTaken asked) : AllTaken ((luid, .ok true) :: asked) :=
  List.forall_mem_cons.2 ⟨rfl, busy⟩

/-- A search that begins with a number that is taken ends as that among the later numbers does. -/
theorem Ends.cons (more : a.next < numericLimit) (luid : Luid)
    (ends : Ends ⟨a.next + 1, more⟩ asked answer) : Ends a ((luid, .ok true) :: asked) answer := by
  cases ends with
  | free last busy => exact .free last (busy.cons luid)
  | failed last e busy => exact .failed last e (busy.cons luid)
  | exhausted busy all =>
    exact .exhausted (busy.cons luid) (by rw [left_of_more more, List.length_cons, all, List.length_cons])

/-- A test that failed ended the search, and its error is the answer. -/
theorem Ends.of_failed {luid : Luid} {e : SourceError} (ends : Ends a asked answer)
    (failed : (luid, .error e) ∈ asked) : answer = .error e := by
  have not_busy {before : List Inquiry} (busy : AllTaken before) : (luid, .error e) ∉ before :=
    fun member => by simpa using busy _ member
  cases ends with
  | free last busy => simp [not_busy busy] at failed
  | failed last e' busy =>
    obtain ⟨-, rfl⟩ : luid = last ∧ e = e' := by simpa [not_busy busy] using failed
    rfl
  | exhausted busy _ => exact absurd failed (not_busy busy)

namespace Search

theorem next_eq (search : Search a asked answer b) : b.next = a.next + asked.length := by
  induction search with
  | exhausted full | failed more e | free more => rfl
  | taken more later inductionHypothesis =>
    rw [inductionHypothesis, List.length_cons]
    exact Nat.add_right_comm ..

/-- A test is asked about the numbers left, from the first one on and each of them once. -/
theorem asks (search : Search a asked answer b) :
    asked.map (·.1) = (a.left.take asked.length).map toString := by
  induction search with
  | exhausted full => rfl
  | failed more e | free more => simp [left_of_more more]
  | taken more later inductionHypothesis =>
    rw [left_of_more more, List.length_cons, List.take_succ_cons, List.map_cons, List.map_cons,
      inductionHypothesis]

theorem ends (search : Search a asked answer b) : Ends a asked answer := by
  have nothing : AllTaken [] := nofun
  induction search with
  | exhausted full =>
    exact .exhausted nothing (by rw [left_of_full full, List.length_nil, List.length_nil])
  | failed more e => exact .failed _ e nothing
  | free more => exact .free _ nothing
  | taken more later inductionHypothesis => exact inductionHypothesis.cons more _

end Search

/-! ## What the test says -/

/-- A search does nothing to the state of a test but to ask it. -/
theorem allocateWith_keeps {P : σ → Prop} (keeps : ∀ luid, (taken luid).Keeps P) (a : IdAllocator)
    {s : σ} (holds : P s) : P (a.allocateWith taken s).2.2 := by
  induction rounds : numericLimit - a.next generalizing a s with
  | zero =>
    rw [allocateWith, dif_neg (by omega)]
    exact holds
  | succ fewer inductionHypothesis =>
    have more : a.next < numericLimit := by omega
    have kept := keeps (toString a.next) s holds
    have fewerLeft : numericLimit - (⟨a.next + 1, more⟩ : IdAllocator).next = fewer := by
      change numericLimit - (a.next + 1) = fewer
      omega
    rw [allocateWith, dif_pos more]
    dsimp only
    rw [stateAfter] at kept
    rcases told : (taken (toString a.next)).on s with ⟨e | _ | _, after⟩ <;> rw [told] at kept
    · exact kept
    · exact kept
    · exact inductionHypothesis _ kept fewerLeft

/-- A test with a record is asked what it would be asked in turn. -/
theorem keeps_recorded (taken : Luid → Action σ SourceError Bool) (s : σ) (luid : Luid) :
    (recorded taken luid).Keeps fun noted : σ × List Inquiry =>
      inTurn taken (noted.2.map (·.1)) s = (noted.2, noted.1) := by
  rintro ⟨now, asked⟩ faithful
  simp only [stateAfter, recorded, on_of, List.map_append, inTurn_append, faithful, List.map_cons,
    List.map_nil]
  rfl

/-- Whatever a test says, a search shows it the numbers that are left one after the other, each of them
once, and stops at the first one that is not taken, which is the answer, or for which the test fails.
Then the next number to give is the one after it.  That no number is left is the answer exactly if the
test says of all of them that they are taken, unless the test itself fails with the error that says
so. -/
theorem search_finds_first_free (taken : Luid → Action σ SourceError Bool) (a : IdAllocator) (s : σ) :
    ∃ asked answer b after,
      a.allocateWith taken s = (answer, b, after) ∧
      a.allocateWith (recorded taken) (s, []) = (answer, b, after, asked) ∧
      inTurn taken ((a.left.take asked.length).map toString) s = (asked, after) ∧
      a.peek? = a.left.head? ∧ b.peek? = b.left.head? ∧ b.left = a.left.drop asked.length ∧
      Ends a asked answer ∧
      (answer = .error .idSpaceExhausted ↔ AllTaken (inTurn taken (a.left.map toString) s).1 ∨
        ∃ luid, (luid, .error .idSpaceExhausted) ∈ asked) := by
  obtain ⟨asked, answer, b, after, search, plain, noted⟩ := allocateWith_recorded taken a s []
  rw [List.nil_append] at noted
  have faithful : inTurn taken ((a.left.take asked.length).map toString) s = (asked, after) := by
    have kept := allocateWith_keeps (keeps_recorded taken s) a (s := (s, [])) rfl
    rwa [noted, search.asks] at kept
  have ends := search.ends
  refine ⟨asked, answer, b, after, plain, noted, faithful, a.peek?_eq_head?_left,
    b.peek?_eq_head?_left, left_of_next_eq search.next_eq, ends, ?_, ?_⟩
  · rintro rfl
    cases ends with
    | failed luid e busy => exact .inr ⟨luid, by simp⟩
    | exhausted busy all =>
      rw [all, List.take_length] at faithful
      exact .inl (by rwa [faithful])
  · rintro (allTaken | ⟨luid, failed⟩)
    · -- The inquiries that were made are the first of those about all numbers left.
      have busy : AllTaken asked := fun inquiry member => allTaken inquiry <| by
        rw [← List.take_append_drop asked.length a.left, List.map_append, inTurn_append, faithful]
        exact List.mem_append_left _ member
      cases ends with
      | free luid _ => exact absurd (busy (luid, .ok false) (by simp)) (by simp)
      | failed luid e _ => exact absurd (busy (luid, .error e) (by simp)) (by simp)
      | exhausted _ _ => rfl
    · exact ends.of_failed failed

end DataSync.IdAllocator
