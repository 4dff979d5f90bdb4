import DataSync.Duration

/-!
# Retries

A message whose transfer failed in a way that may pass is sent again, some time after it was sent
before, until a budget of time is used up.
-/

namespace DataSync

/-- For how long, and how often, a message is sent again. -/
structure RetryPolicy where
  /-- The time after the first sending in which the message may be sent again. -/
  budget : Duration := .ofSeconds 300
  /-- The time between two sendings, and the time that one of them may take; zero sets no limit. -/
  interval : Duration := .ofSeconds 120
deriving DecidableEq

namespace RetryPolicy

/-- The time that a sending may take. -/
def messageTimeout (policy : RetryPolicy) : Option Duration :=
  if policy.interval = 0 then none else some policy.interval

/-- Whether a message may be sent again when some time has passed since it was sent first. -/
def allowsRetry (policy : RetryPolicy) (elapsed : Duration) : Bool :=
  elapsed < policy.budget

/-- The time to wait before a message is sent again when some time has passed since it was sent. -/
def delay (policy : RetryPolicy) (sinceSent : Duration) : Duration :=
  policy.interval - sinceSent

/-- Every attempt after which the policy allows another one uses up some of what is left of the
budget. -/
theorem budget_sub_lt {policy : RetryPolicy} {elapsed time pause : Duration} (positive : 1 ≤ time)
    (allowed : policy.allowsRetry (elapsed + time) = true) :
    policy.budget - (elapsed + time + pause) < policy.budget - elapsed := by
  have withinBudget : elapsed + time < policy.budget := by simpa [allowsRetry] using allowed
  have later : elapsed < elapsed + time := Nat.lt_add_of_pos_right positive
  exact Nat.sub_lt_sub_left (Nat.lt_trans later withinBudget)
    (Nat.lt_of_lt_of_le later (Nat.le_add_right _ pause))

end RetryPolicy

end DataSync
