import DataSync.Cbor.Value

/-!
# Reading CBOR

The value at the start of octets.  All written forms are read, also those that are longer than
necessary and those in which a text, a byte string, an array or a map goes on until a stop mark.
Arrays and maps may be nested up to a depth that the caller gives.
-/

namespace DataSync.Cbor

/-- The start of a written value. -/
inductive Head where
  | unsigned (n : Nat)
  | negative (n : Nat)
  | bytes (length : Option Nat)
  | text (length : Option Nat)
  | array (length : Option Nat)
  | map (length : Option Nat)
  | tag (n : Nat)
  | simple (n : Nat)
  | float (octets : Bytes)
  /-- The mark that ends what has no length in front. -/
  | stop
deriving DecidableEq

/-- The first octets, if there are so many, and the others. -/
def splitOff (count : Nat) (bytes : Bytes) : Option (Bytes × Bytes) :=
  if bytes.length < count then none else some (bytes.take count, bytes.drop count)

namespace Head

/-- The number of octets that hold the number of a head with these low bits. -/
def extent (low : Nat) : Option Nat :=
  if low < 24 then some 0
  else if low = 24 then some 1
  else if low = 25 then some 2
  else if low = 26 then some 4
  else if low = 27 then some 8
  else none

/-- The head of a kind with a number, or without one. -/
def ofKind (kind : Nat) (n : Option Nat) : Option Head :=
  match kind, n with
  | 0, some n => some (.unsigned n)
  | 1, some n => some (.negative n)
  | 2, n => some (.bytes n)
  | 3, n => some (.text n)
  | 4, n => some (.array n)
  | 5, n => some (.map n)
  | 6, some n => some (.tag n)
  | _, none => if kind = 7 then some .stop else none
  | _, some _ => none

/-- The head at the start of octets, and the octets after it. -/
def read : Bytes → Option (Head × Bytes)
  | [] => none
  | first :: rest =>
    let kind := first.toNat / 32
    let low := first.toNat % 32
    if low = 31 then (ofKind kind none).map (·, rest)
    else do
      let (octets, rest) ← splitOff (← extent low) rest
      let n := if octets.isEmpty then low else Bytes.toNat octets
      if kind = 7 then
        return (if octets.length < 2 then .simple n else .float octets, rest)
      else return (← ofKind kind (some n), rest)

end Head

/-- The content of a string that goes on until a stop mark, piece by piece.  Pieces without a length
may be nested; `openPieces` counts those that are not closed yet. -/
def readPieces (piece : Head → Option (Option Nat)) : (fuel openPieces : Nat) → Bytes →
    Option (List Bytes × Bytes)
  | 0, _, _ => none
  | fuel + 1, openPieces, bytes => do
    let (head, rest) ← Head.read bytes
    if head = .stop then
      if openPieces = 1 then return ([], rest) else readPieces piece fuel (openPieces - 1) rest
    else
      match ← piece head with
      | none => readPieces piece fuel (openPieces + 1) rest
      | some length =>
        let (content, rest) ← splitOff length rest
        let (pieces, rest) ← readPieces piece fuel openPieces rest
        return (content :: pieces, rest)

/-- The length in the head of a byte string. -/
def bytesPiece : Head → Option (Option Nat)
  | .bytes length => some length
  | _ => none

/-- The length in the head of a text. -/
def textPiece : Head → Option (Option Nat)
  | .text length => some length
  | _ => none

/-- The text that pieces make, each of which is a text of its own. -/
def joinTexts : List Bytes → Option String
  | [] => some ""
  | piece :: rest => do return (← Bytes.text? piece) ++ (← joinTexts rest)

mutual

/-- The value at the start of octets, and the octets after it. -/
def readValue : (fuel depth : Nat) → Bytes → Option (Value × Bytes)
  | 0, _, _ => none
  | fuel + 1, depth, bytes => do
    let (head, rest) ← Head.read bytes
    match head with
    | .unsigned n => return (.unsigned n, rest)
    | .negative n => return (.negative n, rest)
    | .bytes (some length) =>
      let (content, rest) ← splitOff length rest
      return (.bytes content, rest)
    | .bytes none =>
      let (pieces, rest) ← readPieces bytesPiece fuel 1 rest
      return (.bytes pieces.flatten, rest)
    | .text (some length) =>
      let (content, rest) ← splitOff length rest
      return (.text true (← Bytes.text? content), rest)
    | .text none =>
      let (pieces, rest) ← readPieces textPiece fuel 1 rest
      return (.text false (← joinTexts pieces), rest)
    | .array length =>
      match depth with
      | 0 => none
      | depth + 1 =>
        let (items, rest) ← readItems fuel depth length rest
        return (.array items, rest)
    | .map length =>
      match depth with
      | 0 => none
      | depth + 1 =>
        let (entries, rest) ← readEntries fuel depth length rest
        return (.map entries, rest)
    | .tag n =>
      let (value, rest) ← readValue fuel depth rest
      return (.tagged n value, rest)
    | .simple n => return (.simple n, rest)
    | .float octets => return (.float octets, rest)
    | .stop => none

/-- So many values one after the other, or all values before a stop mark. -/
def readItems : (fuel depth : Nat) → Option Nat → Bytes → Option (List Value × Bytes)
  | _, _, some 0, bytes => some ([], bytes)
  | 0, _, _, _ => none
  | fuel + 1, depth, length, bytes =>
    if length = none ∧ bytes.head? = some 0xFF then some ([], bytes.drop 1)
    else do
      let (value, rest) ← readValue fuel depth bytes
      let (values, rest) ← readItems fuel depth (length.map (· - 1)) rest
      return (value :: values, rest)

/-- So many entries one after the other, or all entries before a stop mark. -/
def readEntries : (fuel depth : Nat) → Option Nat → Bytes → Option (List (Value × Value) × Bytes)
  | _, _, some 0, bytes => some ([], bytes)
  | 0, _, _, _ => none
  | fuel + 1, depth, length, bytes =>
    if length = none ∧ bytes.head? = some 0xFF then some ([], bytes.drop 1)
    else do
      let (key, rest) ← readValue fuel depth bytes
      let (value, rest) ← readValue fuel depth rest
      let (entries, rest) ← readEntries fuel depth (length.map (· - 1)) rest
      return ((key, value) :: entries, rest)

end

/-- The value at the start of octets with nesting up to `depth`, and the octets after it.  Every
step of the reader takes an octet or goes one level deeper, so that their number is bounded. -/
def read (depth : Nat) (bytes : Bytes) : Option (Value × Bytes) :=
  readValue (2 * bytes.length + 2) depth bytes

end DataSync.Cbor
