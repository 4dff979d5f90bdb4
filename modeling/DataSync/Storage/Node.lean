import DataSync.Basic
import DataSync.Duration
import DataSync.Storage.Error
import DataSync.Storage.PropertyFile

/-!
# Property nodes

A node keeps properties between sessions.  Configuration is read from one, and a source keeps the
revisions of its items in another.  The typed reads treat an empty value like an absent one and
refuse a value that is not of their type.
-/

namespace DataSync

/-- A state that keeps properties. -/
class PropertyNode (ν : Type) where
  /-- The name by which messages refer to the node. -/
  name : ν → String
  /-- Whether the node was ever written. -/
  isStored : ν → Bool
  /-- All properties. -/
  read : ν → Except StorageError Properties
  /-- Give a property a value. -/
  set (key value : String) : Action ν StorageError Unit
  /-- Take a property away. -/
  remove (key : String) : Action ν StorageError Unit
  /-- Put other properties in the place of all of them, and store them. -/
  replaceAll (properties : Properties) : Action ν StorageError Unit
  /-- Store what was changed. -/
  flush : Action ν StorageError Unit

namespace PropertyNode

variable {ν : Type} [PropertyNode ν]

/-- Take all properties away, and store that. -/
def clear : Action ν StorageError Unit :=
  replaceAll .empty

/-- The value of a property. -/
def get? (node : ν) (key : String) : Except StorageError (Option String) :=
  (read node).map (·.get? key)

/-- The value of a property that is not empty. -/
def text? (node : ν) (key : String) : Except StorageError (Option String) :=
  (get? node key).map fun value => value.filter (· ≠ "")

/-- The truth value that a word stands for. -/
def truth? (word : String) : Option Bool :=
  match Text.lowerAscii (Text.trim word) with
  | "1" | "true" | "yes" | "on" | "t" => some true
  | "0" | "false" | "no" | "off" | "f" => some false
  | _ => none

/-- A property read as a value of a type, of which the text says what was expected. -/
def typed? {α : Type} (expected : String) (reader : String → Option α) (node : ν) (key : String) :
    Except StorageError (Option α) := do
  match ← text? node key with
  | none => return none
  | some value =>
    match reader value with
    | some result => return some result
    | none => throw (.invalidValue key value expected)

/-- A property that is true or false. -/
def flag? (node : ν) (key : String) : Except StorageError (Option Bool) :=
  typed? "boolean" truth? node key

/-- A property that is a number below `2 ^ 32`. -/
def number? (node : ν) (key : String) : Except StorageError (Option Nat) :=
  typed? "unsigned integer" (fun value => Text.unsigned? UInt32.size (Text.trimChars value.toList))
    node key

/-- A property that is a length of time. -/
def duration? (node : ν) (key : String) : Except StorageError (Option Duration) :=
  typed? "duration" Duration.read? node key

end PropertyNode

end DataSync
