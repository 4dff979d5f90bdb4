import DataSync.Cbor.Value
import DataSync.Table
import DataSync.Text.Numeral

/-!
# Displays

How values look from the outside: as texts, numbers, lists and records with named fields, for whoever
watches a session or stores what it did.
-/

namespace DataSync

open Cbor (Value)

/-- A type of values that can be displayed. -/
class Display (α : Type) where
  display : α → Value

namespace Display

variable {α : Type} [Display α]

scoped instance : CoeOut α Value := ⟨display⟩

instance : Display Value := ⟨id⟩

/-- What was done without any result is shown as done. -/
instance : Display Unit := ⟨fun _ => .text true "ok"⟩

instance : Display String := ⟨.text true⟩

instance : Display Bool := ⟨.bool⟩

instance : Display Nat := ⟨.unsigned⟩

instance : Display Int where
  display
    | .ofNat n => .unsigned n
    | .negSucc n => .negative n

instance : Display Bytes := ⟨.bytes⟩

instance : Display (Option α) := ⟨fun value => value.elim .null display⟩

instance {ε : Type} [Display ε] : Display (Except ε α) where
  display
    | .error e => display e
    | .ok result => display result

instance : Display (List α) := ⟨fun values => .array (values.map display)⟩

instance : Display (Table α) where
  display table := .record (table.entries.map fun (name, value) => (name, display value))

/-- Octets in hexadecimal notation. -/
def hex (bytes : Bytes) : Value :=
  Text.hexOctets bytes

/-- A number by its decimal digits, for readers that cannot take large ones. -/
def digits (n : Nat) : Value :=
  toString n

end Display

end DataSync
