import DataSync.Basic

/-!
# CBOR values

The data model of the Concise Binary Object Representation and its shortest written form.  Of a text
it is kept whether its length stood in front of it, because names may only be written that way.
-/

namespace DataSync.Cbor

/-- A value. -/
inductive Value where
  | unsigned (n : Nat)
  /-- The number `-1 - n`. -/
  | negative (n : Nat)
  | bytes (content : Bytes)
  | text (definite : Bool) (content : String)
  | array (items : List Value)
  | map (entries : List (Value × Value))
  | tagged (tag : Nat) (value : Value)
  | simple (n : Nat)
  /-- A floating point number by the octets of its written form. -/
  | float (octets : Bytes)
deriving Inhabited

namespace Value

/-- The value for what is missing. -/
def null : Value := .simple 22

/-- A truth value. -/
def bool (b : Bool) : Value := .simple (if b then 21 else 20)

/-- A text or nothing. -/
def textOrNull : Option String → Value
  | none => null
  | some content => .text true content

/-- A map from names to values. -/
def record (fields : List (String × Value)) : Value :=
  .map (fields.map fun (name, value) => (.text true name, value))

end Value

/-- The start of a written value: its kind and a number in as few octets as possible. -/
def head (kind n : Nat) : Bytes :=
  let start (low : Nat) : UInt8 := UInt8.ofNat (kind * 32 + low)
  if n < 24 then [start n]
  else if n < 0x100 then [start 24, UInt8.ofNat n]
  else if n < 0x10000 then start 25 :: Bytes.ofWord n
  else if n < 0x100000000 then start 26 :: Bytes.ofLong n
  else start 27 :: (Bytes.ofLong (n / 0x100000000) ++ Bytes.ofLong n)

mutual

/-- The written form of a value. -/
def write : Value → Bytes
  | .unsigned n => head 0 n
  | .negative n => head 1 n
  | .bytes content => head 2 content.length ++ content
  | .text _ content => head 3 content.utf8ByteSize ++ Bytes.ofText content
  | .array items => head 4 items.length ++ writeItems items
  | .map entries => head 5 entries.length ++ writeEntries entries
  | .tagged tag value => head 6 tag ++ write value
  | .simple n => if n < 24 then head 7 n else [0xF8, UInt8.ofNat n]
  | .float octets =>
    (if octets.length = 2 then 0xF9 else if octets.length = 4 then 0xFA else 0xFB) :: octets

/-- The written forms of values one after the other. -/
def writeItems : List Value → Bytes
  | [] => []
  | value :: rest => write value ++ writeItems rest

/-- The written forms of entries one after the other. -/
def writeEntries : List (Value × Value) → Bytes
  | [] => []
  | (key, value) :: rest => write key ++ write value ++ writeEntries rest

end

end DataSync.Cbor
