import DataSync.Table
import DataSync.Text.Numeral

/-!
# Items and revisions

A source names each of its items by a local identifier and can say for each item which revision of
it is there.  Two revisions of one item are equal exactly when nothing changed between them.
-/

namespace DataSync

/-- The local identifier of an item, any text. -/
abbrev Luid := String

/-- A text that changes whenever an item does. -/
abbrev Revision := String

/-- The revision of each item. -/
abbrev RevisionMap := Table Revision

/-- A set of identifiers. -/
abbrev LuidSet := Table Unit

/-- The first number that is too large for a numeric identifier. -/
def numericLimit : Nat := UInt64.size

/-- The number below `numericLimit` that an identifier of decimal digits writes. -/
def Luid.number? (luid : Luid) : Option Nat :=
  (Text.digits? luid.toList).filter (· < numericLimit)

theorem Luid.number?_toString {n : Nat} (small : n < numericLimit) :
    Luid.number? (toString n) = some n := by
  simp [number?, Text.digits?_toDigits, small]

end DataSync
