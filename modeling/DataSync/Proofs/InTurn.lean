import DataSync.Basic

/-!
# Operations in turn

What an operation answers for several values, one after the other.  A loop that goes through values and
may stop before the last one is compared with this: its answers are those for the values up to where it
stopped.
-/

namespace DataSync.Action

variable {ι σ ε α : Type}

/-- What an operation answers for each of some values in turn, and the state after the last one.  No
answer keeps the values after it from their turn. -/
def inTurn (operation : ι → Action σ ε α) : List ι → σ → List (ι × Except ε α) × σ
  | [], s => ([], s)
  | i :: rest, s => match (operation i).on s with
    | (told, s) => match inTurn operation rest s with
      | (later, s) => ((i, told) :: later, s)

theorem inTurn_cons (operation : ι → Action σ ε α) (i : ι) (rest : List ι) (s : σ) :
    inTurn operation (i :: rest) s =
      ((i, ((operation i).on s).1) :: (inTurn operation rest ((operation i).on s).2).1,
        (inTurn operation rest ((operation i).on s).2).2) := rfl

/-- The turns of later values begin where those of earlier ones ended. -/
theorem inTurn_append (operation : ι → Action σ ε α) (first second : List ι) (s : σ) :
    inTurn operation (first ++ second) s =
      ((inTurn operation first s).1 ++ (inTurn operation second (inTurn operation first s).2).1,
        (inTurn operation second (inTurn operation first s).2).2) := by
  induction first generalizing s with
  | nil => rfl
  | cons i rest inductionHypothesis =>
    simp only [List.cons_append, inTurn_cons, inductionHypothesis]

end DataSync.Action
