import DataSync.Cbor.Reader

/-!
# Records in CBOR

Values of the types that messages are made of, read from CBOR values.  Tags around such a value are
passed over.  A record is a map from names to values in any order; names that the reader does not
know are skipped, those that it knows may stand only once.  A message is a name alone or a map with a
single entry, from the name of its kind to its content.
-/

namespace DataSync.Cbor

/-- The octets that a name may have. -/
def nameLimit : Nat := 4096

/-- How deep the arrays and maps of a message may be nested. -/
def nestingLimit : Nat := 256

namespace Value

/-- The value inside tags. -/
def untagged : Value → Value
  | .tagged _ value => value.untagged
  | value => value

/-- A text. -/
def text? (value : Value) : Option String :=
  match value.untagged with
  | .text _ content => some content
  | _ => none

/-- A text or nothing. -/
def textOrNull? : Value → Option (Option String)
  | .simple 22 | .simple 23 => some none
  | value => value.text?.map some

/-- A truth value. -/
def bool? (value : Value) : Option Bool :=
  match value.untagged with
  | .simple 20 => some false
  | .simple 21 => some true
  | _ => none

/-- The number in the octets of a big number, which may be up to sixteen after leading zeros. -/
def bigNumber? (octets : Bytes) : Option Nat :=
  let octets := octets.dropWhile (· = 0)
  if octets.length ≤ 16 then some (Bytes.toNat octets) else none

/-- A number below a limit.  Of the tags around it one says that it is a big number. -/
def number? (limit : Nat) : Value → Option Nat
  | .unsigned n => if n < limit then some n else none
  | .tagged 2 (.bytes octets) => (bigNumber? octets).filter (· < limit)
  | .tagged 2 _ => none
  | .tagged 3 _ => none
  | .tagged _ value => value.number? limit
  | _ => none

/-- A byte string, which may also be an array of numbers. -/
def bytes? (value : Value) : Option Bytes :=
  match value.untagged with
  | .bytes content => some content
  | .array items => items.mapM fun item => (item.number? 256).map UInt8.ofNat
  | _ => none

/-- A list, of which an empty one may also be an empty byte string. -/
def list? {α : Type} (item? : Value → Option α) (value : Value) : Option (List α) :=
  match value.untagged with
  | .array items => items.mapM item?
  | .bytes [] => some []
  | _ => none

mutual

/-- Whether a value can be skipped: it has no simple values without a meaning, and no tags but those
of big numbers. -/
def isSkippable : Value → Bool
  | .tagged tag value =>
    match value with
    | .bytes octets => (tag = 2 ∨ tag = 3) && (bigNumber? octets).isSome
    | _ => false
  | .simple n => 20 ≤ n && n ≤ 23
  | .array items => areSkippable items
  | .map entries => entriesSkippable entries
  | _ => true

/-- Whether all values can be skipped. -/
def areSkippable : List Value → Bool
  | [] => true
  | value :: rest => value.isSkippable && areSkippable rest

/-- Whether all keys and values can be skipped. -/
def entriesSkippable : List (Value × Value) → Bool
  | [] => true
  | (key, value) :: rest => key.isSkippable && value.isSkippable && entriesSkippable rest

end

/-- A name. -/
def name? (value : Value) : Option String :=
  match value.untagged with
  | .text true content => if content.utf8ByteSize ≤ nameLimit then some content else none
  | _ => none

/-- The values of names in a record, of which the known ones stand at most once and the others can be
skipped. -/
def fields? (known : List String) (entries : List (Value × Value)) :
    Option (List (String × Value)) := do
  let fields ← entries.mapM fun (key, value) => return (← key.name?, value)
  guard (fields.all fun (name, value) => known.contains name || value.isSkippable)
  guard (known.all fun name => (fields.filter (·.1 = name)).length ≤ 1)
  return fields

/-- The values of names in a record. -/
def record? (known : List String) : Value → Option (List (String × Value))
  | .map entries => fields? known entries
  | _ => none

end Value

/-- The value of a name. -/
def field (fields : List (String × Value)) (name : String) : Option Value :=
  (fields.find? (·.1 = name)).map (·.2)

/-- A text or nothing under a name, which may be missing. -/
def optionalText (fields : List (String × Value)) (name : String) : Option (Option String) :=
  match field fields name with
  | none => some none
  | some value => value.textOrNull?

/-- The head after any tags. -/
def headAfterTags : (fuel : Nat) → Bytes → Option (Head × Bytes)
  | 0, _ => none
  | fuel + 1, bytes =>
    match Head.read bytes with
    | some (.tag _, rest) => headAfterTags fuel rest
    | result => result

/-- The name at the start of octets, and the octets after it. -/
def readName (bytes : Bytes) : Option (String × Bytes) :=
  match headAfterTags bytes.length bytes with
  | some (.text (some length), rest) => do
    guard (length ≤ nameLimit)
    let (content, rest) ← splitOff length rest
    return (← Bytes.text? content, rest)
  | _ => none

/-- The name of the kind of a message, and the octets of its content if it is not a name alone. -/
def readVariant (bytes : Bytes) : Option (String × Option Bytes) :=
  match headAfterTags bytes.length bytes with
  | some (.text _, _) => (readName bytes).map fun (name, _) => (name, none)
  | some (.map (some 1), rest) => (readName rest).map fun (name, rest) => (name, some rest)
  | _ => none

/-- The content of a message, which is one level deep in it. -/
def readContent (bytes : Option Bytes) : Option Value := do
  let (value, _) ← read (nestingLimit - 1) (← bytes)
  return value

end DataSync.Cbor
