import DataSync.Basic

/-!
# Reading damaged UTF-8

The text that remains readable in octets which may not be UTF-8: every longest run that starts like
the encoding of a character but breaks off becomes one replacement character.
-/

namespace DataSync.Text

/-- The character that stands for what cannot be read. -/
def replacement : Char := '\uFFFD'

/-- Whether an octet continues the encoding of a character. -/
def continues (b : UInt8) : Bool :=
  0x80 ≤ b && b < 0xC0

/-- The number of octets that an encoding with this first octet has after it, and the octets that
may come second. -/
def encodingShape (first : UInt8) : Option (Nat × UInt8 × UInt8) :=
  if first < 0x80 then some (0, 0x80, 0xBF)
  else if first < 0xC2 then none
  else if first < 0xE0 then some (1, 0x80, 0xBF)
  else if first = 0xE0 then some (2, 0xA0, 0xBF)
  else if first = 0xED then some (2, 0x80, 0x9F)
  else if first < 0xF0 then some (2, 0x80, 0xBF)
  else if first = 0xF0 then some (3, 0x90, 0xBF)
  else if first < 0xF4 then some (3, 0x80, 0xBF)
  else if first = 0xF4 then some (3, 0x80, 0x8F)
  else none

/-- The number of leading octets that follow a first octet in its encoding: `needed` of them, of
which the first one lies in a range. -/
def run (needed : Nat) (low high : UInt8) (bytes : Bytes) : Nat :=
  match needed, bytes with
  | 0, _ => 0
  | _, [] => 0
  | needed + 1, b :: rest =>
    if low ≤ b && b ≤ high then run needed 0x80 0xBF rest + 1 else 0

/-- The readable text of octets. -/
def lossyChars (bytes : Bytes) : List Char :=
  match bytes with
  | [] => []
  | first :: rest =>
    match encodingShape first with
    | none => replacement :: lossyChars rest
    | some (needed, low, high) =>
      let found := run needed low high rest
      let piece := first :: rest.take found
      (match Bytes.text? piece with
        | some text => text.toList
        | none => [replacement]) ++ lossyChars (rest.drop found)
termination_by bytes.length
decreasing_by all_goals simp; try omega

/-- The readable text of octets. -/
def lossy (bytes : Bytes) : String :=
  String.ofList (lossyChars bytes)

end DataSync.Text
