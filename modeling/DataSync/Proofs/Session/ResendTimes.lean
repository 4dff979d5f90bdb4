import DataSync.Proofs.Session.Counts

/-!
# Times of resending

When the attempts to transfer a message start.  Whether there is another attempt is decided when one has
failed, and only then the time until it starts is waited for.  So the budget bounds the times of the
failures.  An attempt can still start after the end of the budget, by less than the interval between
two attempts, and then it is the last one.
-/

namespace DataSync

namespace RetryPolicy

/-- The times at which a message is sent, the latest first.  An attempt that started at some time and
failed at a later one is followed by another if the policy allows it then. -/
inductive Attempts (policy : RetryPolicy) (first : Duration) : List Duration → Prop where
  | first : Attempts policy first [first]
  | again {started failed : Duration} {earlier : List Duration}
      (attempts : Attempts policy first (started :: earlier)) (later : started ≤ failed)
      (allowed : policy.allowsRetry (failed - first) = true) :
      Attempts policy first ((failed + policy.delay (failed - started)) :: started :: earlier)

variable {policy : RetryPolicy} {first started failed : Duration} {starts : List Duration}

/-! ## One attempt after another -/

/-- The next attempt starts when the one before has failed, but no sooner than an interval after its
start. -/
theorem resend_eq (later : started ≤ failed) :
    failed + policy.delay (failed - started) = max failed (started + policy.interval) := by
  have arithmetic : ∀ started failed interval : Nat, started ≤ failed →
      failed + (interval - (failed - started)) = max failed (started + interval) := by omega
  exact arithmetic started failed policy.interval later

theorem allowsRetry_iff (since : first ≤ failed) :
    policy.allowsRetry (failed - first) = true ↔ failed < first + policy.budget := by
  rw [allowsRetry, decide_eq_true_iff]
  exact Nat.sub_lt_iff_lt_add' since

/-! ## All attempts -/

theorem Attempts.since (attempts : policy.Attempts first starts) :
    ∀ start ∈ starts, first ≤ start := by
  induction attempts with
  | first => exact List.forall_mem_singleton.2 (Nat.le_refl _)
  | again attempts later _ inductionHypothesis =>
    have since := Nat.le_trans (inductionHypothesis _ List.mem_cons_self) later
    exact List.forall_mem_cons.2 ⟨Nat.le_trans since (Nat.le_add_right _ _), inductionHypothesis⟩

/-- How a policy spaces the attempts, of which all but the first one are resendings. -/
structure Spaced (policy : RetryPolicy) (first : Duration) (starts : List Duration) : Prop where
  apart : List.IsChain (fun later earlier : Duration => earlier + policy.interval ≤ later) starts
  once : policy.budget = 0 → starts = [first]
  /-- Attempts that are followed by others start within the budget. -/
  early : ∀ start ∈ starts.tail, start < first + policy.budget
  /-- The last one starts at most an interval late. -/
  overrun : ∀ resent ∈ starts.dropLast, resent < first + policy.budget + policy.interval

theorem Attempts.spaced (attempts : policy.Attempts first starts) : policy.Spaced first starts := by
  induction attempts with
  | first => exact ⟨.singleton first, fun _ => rfl, by simp, by simp⟩
  | @again started failed earlier attempts later allowed inductionHypothesis =>
    have since := Nat.le_trans (attempts.since started List.mem_cons_self) later
    have inBudget := (allowsRetry_iff since).1 allowed
    obtain ⟨apart, -, early, overrun⟩ := inductionHypothesis
    rw [resend_eq later]
    refine ⟨.cons_cons (Nat.le_max_right _ _) apart, fun nothing => ?_, ?_, ?_⟩
    · rw [nothing] at inBudget
      exact absurd since (Nat.not_le.2 inBudget)
    · exact List.forall_mem_cons.2 ⟨Nat.lt_of_le_of_lt later inBudget, early⟩
    · rw [List.dropLast_cons_cons]
      refine List.forall_mem_cons.2 ⟨Nat.max_lt.2 ⟨?_, ?_⟩, overrun⟩
      · exact Nat.lt_of_lt_of_le inBudget (Nat.le_add_right _ _)
      · exact Nat.add_lt_add_right (Nat.lt_of_le_of_lt later inBudget) _

/-- The attempts start an interval apart, and there is only one without a budget.  All resendings start
within the budget exactly if each attempt that is followed by another one started more than the interval
before the end of the budget. -/
theorem resendings_within_budget_iff (attempts : policy.Attempts first starts) :
    policy.Spaced first starts ∧
      ((∀ resent ∈ starts.dropLast, resent < first + policy.budget) ↔
        ∀ start ∈ starts.tail, start + policy.interval < first + policy.budget) := by
  refine ⟨attempts.spaced, ?_⟩
  induction attempts with
  | first => simp
  | @again started failed earlier attempts later allowed inductionHypothesis =>
    have since := Nat.le_trans (attempts.since started List.mem_cons_self) later
    have inBudget := (allowsRetry_iff since).1 allowed
    rw [List.dropLast_cons_cons, List.forall_mem_cons, List.tail_cons, List.forall_mem_cons,
      resend_eq later, Nat.max_lt]
    exact and_congr (and_iff_right inBudget) inductionHypothesis

/-- Three attempts, each of which fails at once. -/
theorem prompt_attempts_within_budget :
    ({ budget := 300, interval := 100 } : RetryPolicy).Attempts 0 [200, 100, 0] ∧
      ∀ resent ∈ [200, 100], resent < 0 + 300 := by
  have second : ({ budget := 300, interval := 100 } : RetryPolicy).Attempts 0 [100, 0] :=
    .again .first (Nat.le_refl 0) (by decide)
  have attempts : ({ budget := 300, interval := 100 } : RetryPolicy).Attempts 0 [200, 100, 0] :=
    .again second (Nat.le_refl 100) (by decide)
  exact ⟨attempts, (resendings_within_budget_iff attempts).2.2 (by decide)⟩

/-- A message is sent again half an interval after the end of the budget. -/
theorem late_resending :
    ({ budget := 1000, interval := 1500 } : RetryPolicy).Attempts 0 [1500, 0] ∧
      ¬ ∀ resent ∈ [1500], resent < 0 + 1000 :=
  ⟨.again .first (Nat.le_refl 0) (by decide), by decide⟩

end RetryPolicy

/-! ## The attempts of a session -/

namespace Session

variable {α β ν : Type} [Agent α] [Backend β] [PropertyNode ν] [Surroundings α (Happening β ν)]

/-- The times at which the attempts to transfer a message start. -/
def attemptTimes (policy : RetryPolicy) (delivered : SessionRequest) (message : Message)
    (expectsReply : Bool) (elapsed : Duration) (session : Session α β ν) : List Duration :=
  match session.attempt delivered message expectsReply with
  | (.settled _, _) => [session.clock]
  | (.failed _, tried) =>
    let time := max (tried.clock - session.clock) 1
    if _allowed : policy.allowsRetry (elapsed + time) then
      match tried.rest (policy.delay time) with
      | (false, _) => [session.clock]
      | (true, rested) =>
        session.clock :: attemptTimes policy delivered message expectsReply
          (elapsed + time + policy.delay time) { rested with retries := rested.retries + 1 }
    else [session.clock]
termination_by policy.budget - elapsed
decreasing_by exact RetryPolicy.budget_sub_lt (Nat.le_max_right _ _) (by assumption)

variable {policy : RetryPolicy} {delivered : SessionRequest} {message : Message}
  {expectsReply : Bool} {session after : Session α β ν}

theorem clock_look (session : Session α β ν) : session.look.clock = session.clock :=
  congrArg (·.2.2) session.meters_look

theorem retries_look (session : Session α β ν) : session.look.retries = session.retries :=
  congrArg (·.2.1) session.meters_look

/-- To wait takes time. -/
theorem counts_of_await {waiting : Session α β ν} (noReply : Bool)
    (retried : waiting.retries = session.retries) (clock : waiting.clock = session.clock) :
    (waiting.await noReply).2.retries = session.retries ∧
      session.clock < (waiting.await noReply).2.clock := by
  unfold await
  dsimp only
  rcases (Agent.wait noReply : StateM α _) waiting.look.agent with ⟨status, agent⟩
  dsimp only
  rw [retries_note, clock_note, retries_look, retries_look, clock_look, clock_look, retried, ← clock]
  exact ⟨rfl, Nat.lt_add_of_pos_right (Nat.le_max_right _ 1)⟩

omit [Backend β] [PropertyNode ν] [Surroundings α (Happening β ν)] in
theorem counts_of_hand (message : Message) (session : Session α β ν) :
    (session.hand message).2.retries = session.retries ∧
      (session.hand message).2.clock = session.clock := by
  unfold hand
  split <;> exact ⟨rfl, rfl⟩

theorem counts_of_attempt {attempt : Attempt}
    (attempted : session.attempt delivered message expectsReply = (attempt, after)) :
    after.retries = session.retries ∧
      ∀ reason, attempt = .failed reason → session.clock < after.clock := by
  obtain ⟨retried, clock⟩ := counts_of_hand message session
  unfold Session.attempt at attempted
  split at attempted
  · rename_i refused
    rw [refused] at retried
    cases attempted
    exact ⟨retried, nofun⟩
  · rename_i handed taken
    rw [taken] at retried clock
    replace retried := (retries_look handed).trans retried
    replace clock := (clock_look handed).trans clock
    obtain ⟨-, rfl⟩ := Prod.mk.inj attempted
    refine (counts_of_await _ ?_ ?_).imp_right fun later _ _ => later
    · split <;> exact retried
    · split <;> exact clock

theorem counts_of_rest {time : Duration} {taken : Bool} (rested : session.rest time = (taken, after)) :
    after.retries = session.retries ∧ (taken = true → after.clock = session.clock + time) := by
  unfold rest at rested
  dsimp only at rested
  split at rested
  · cases rested
    exact ⟨retries_look session, fun _ => congrArg (· + time) (clock_look session)⟩
  · cases rested
    exact ⟨retries_look session, nofun⟩

theorem attempts_attemptTimes {first elapsed : Duration} {earlier : List Duration}
    (attempts : policy.Attempts first (session.clock :: earlier))
    (clock : session.clock = first + elapsed) :
    policy.Attempts first
      ((session.attemptTimes policy delivered message expectsReply elapsed).reverse ++ earlier) := by
  fun_induction attemptTimes policy delivered message expectsReply elapsed session
    generalizing earlier with
  | case1 => exact attempts
  | case2 => exact attempts
  | case3 elapsed session _ tried failed time allowed after rested =>
    rename_i inductionHypothesis
    have took := (counts_of_attempt failed).2 _ rfl
    have measured : time = tried.clock - session.clock := Nat.max_eq_left (Nat.sub_pos_of_lt took)
    have failing : tried.clock = first + (elapsed + time) := by
      rw [measured, ← Nat.add_assoc, ← clock, Nat.add_sub_of_le (Nat.le_of_lt took)]
    have again : policy.Attempts first (after.clock :: session.clock :: earlier) := by
      rw [(counts_of_rest rested).2 rfl, measured]
      refine .again attempts (Nat.le_of_lt took) ?_
      rw [failing, Nat.add_sub_cancel_left]
      exact allowed
    rw [List.reverse_cons, List.append_assoc, List.singleton_append]
    refine inductionHypothesis again ?_
    rw [(counts_of_rest rested).2 rfl, failing, Nat.add_assoc]
  | case4 => exact attempts

/-- A session attempts to transfer a message at times that its policy gives. -/
theorem attempts_of_transfer (policy : RetryPolicy) (delivered : SessionRequest) (message : Message)
    (expectsReply : Bool) (session : Session α β ν) :
    policy.Attempts session.clock
      (session.attemptTimes policy delivered message expectsReply 0).reverse := by
  have attempts : policy.Attempts session.clock
      ((session.attemptTimes policy delivered message expectsReply 0).reverse ++ []) :=
    attempts_attemptTimes .first (Nat.add_zero _).symm
  simpa using attempts

/-- Each of these attempts but the first one is counted as a retry. -/
theorem length_attemptTimes (policy : RetryPolicy) (delivered : SessionRequest) (message : Message)
    (expectsReply : Bool) (elapsed : Duration) (session : Session α β ν) :
    session.retries + (session.attemptTimes policy delivered message expectsReply elapsed).length =
      (session.transfer policy delivered message expectsReply elapsed).2.retries + 1 := by
  fun_induction attemptTimes policy delivered message expectsReply elapsed session with
  | case1 elapsed session result after settled =>
    rw [transfer, settled, (counts_of_attempt settled).1]
    rfl
  | case2 elapsed session _ tried failed time allowed after rested =>
    rw [transfer, failed]
    simp only
    rw [dif_pos allowed, rested, (counts_of_rest rested).1, (counts_of_attempt failed).1]
    rfl
  | case3 elapsed session _ tried failed time allowed after rested inductionHypothesis =>
    rw [transfer, failed]
    simp only
    rw [dif_pos allowed, rested, ← inductionHypothesis, (counts_of_rest rested).1,
      (counts_of_attempt failed).1, List.length_cons]
    exact (Nat.add_assoc ..).symm.trans (Nat.add_right_comm ..)
  | case4 elapsed session _ tried failed time forbidden =>
    rw [transfer, failed]
    simp only
    rw [dif_neg forbidden, retries_note, (counts_of_attempt failed).1]
    rfl

end Session

end DataSync
