import DataSync.Basic
import DataSync.Source.Error

/-!
# Allocation of identifiers

Fresh numeric identifiers in ascending order.  An allocator never gives a number that it gave or saw
before, and fails for good once the numbers below `numericLimit` are used up.
-/

namespace DataSync

/-- The next number to give; at `numericLimit` there is none left. -/
structure IdAllocator where
  next : Nat
  bounded : next ≤ numericLimit
deriving DecidableEq

namespace IdAllocator

/-- The allocator whose first number is given, or the last one if it is too large. -/
def startingAt (first : Nat) : IdAllocator :=
  ⟨min first numericLimit, Nat.min_le_right _ _⟩

instance : Inhabited IdAllocator := ⟨startingAt 1⟩

/-- The number that would be given next. -/
def peek? (allocator : IdAllocator) : Option Nat :=
  if allocator.next < numericLimit then some allocator.next else none

/-- The allocator that stays clear of an identifier in use. -/
def observe (luid : Luid) (allocator : IdAllocator) : IdAllocator :=
  match luid.number? with
  | none => allocator
  | some value => if value < allocator.next then allocator else startingAt (value + 1)

/-- The allocator that stays clear of identifiers in use. -/
def seeded (luids : List Luid) : IdAllocator :=
  luids.foldl (fun allocator luid => allocator.observe luid) (startingAt 1)

/-- Give the next identifier. -/
def allocate : Action IdAllocator SourceError Luid :=
  .of fun allocator =>
    if h : allocator.next < numericLimit then
      (.ok (toString allocator.next), ⟨allocator.next + 1, h⟩)
    else (.error .idSpaceExhausted, allocator)

/-- Give the next identifier that is not taken.  The test for this may fail and may change a state
of its own; it is made once for each identifier in turn. -/
def allocateWith {σ : Type} (taken : Luid → Action σ SourceError Bool) (allocator : IdAllocator)
    (s : σ) : Except SourceError Luid × IdAllocator × σ :=
  if h : allocator.next < numericLimit then
    let luid := toString allocator.next
    let rest : IdAllocator := ⟨allocator.next + 1, h⟩
    match (taken luid).on s with
    | (.error e, s) => (.error e, rest, s)
    | (.ok false, s) => (.ok luid, rest, s)
    | (.ok true, s) => allocateWith taken rest s
  else (.error .idSpaceExhausted, allocator, s)
termination_by numericLimit - allocator.next

end IdAllocator

end DataSync
