import DataSync.Text.Blank
import DataSync.Text.Numeral

/-!
# Durations

Lengths of time in whole nanoseconds, and their notation in configuration properties: a plain number
of seconds, or numbers with the units `d`, `h`, `m` and `s` one after the other, such as `1h30m`.
-/

namespace DataSync

/-- A length of time in nanoseconds. -/
abbrev Duration := Nat

namespace Duration

/-- Nanoseconds in a second. -/
def second : Duration := 1000000000

/-- Nanoseconds in a millisecond. -/
def millisecond : Duration := 1000000

/-- The length of a number of seconds. -/
def ofSeconds (n : Nat) : Duration := n * second

/-- The length of a number of milliseconds. -/
def ofMilliseconds (n : Nat) : Duration := n * millisecond

/-- The number of whole seconds in a length of time. -/
def seconds (d : Duration) : Nat := d / second

/-- The number of whole milliseconds in a length of time. -/
def milliseconds (d : Duration) : Nat := d / millisecond

/-! ## Reading

Seconds are counted in words of 64 bits, and whatever does not fit into one is not a duration. -/

/-- The sum of two words, if it fits into one. -/
def addChecked? (a b : UInt64) : Option UInt64 :=
  if a.toNat + b.toNat < UInt64.size then some (a + b) else none

/-- The product of two words, if it fits into one. -/
def mulChecked? (a b : UInt64) : Option UInt64 :=
  if a.toNat * b.toNat < UInt64.size then some (a * b) else none

/-- The number that a text is, if it fits into a word. -/
def amount? (chars : List Char) : Option UInt64 :=
  (Text.unsigned? UInt64.size chars).map UInt64.ofNat

/-- The seconds in a unit, named by a letter of either case. -/
def unitSeconds? (c : Char) : Option UInt64 :=
  match c.toLower with
  | 'd' => some 86400
  | 'h' => some 3600
  | 'm' => some 60
  | 's' => some 1
  | _ => none

/-- How far groups were read: what the ones so far come to, and the digits that wait for a unit. -/
structure Groups where
  total : UInt64 := 0
  pending : List Char := []
deriving DecidableEq

/-- The groups with one more character. -/
def Groups.read? (groups : Groups) (c : Char) : Option Groups :=
  if c.isDigit then some { groups with pending := groups.pending ++ [c] }
  else do
    let unit ← unitSeconds? c
    let amount ← amount? groups.pending
    let seconds ← mulChecked? amount unit
    return { total := ← addChecked? groups.total seconds }

/-- What groups come to.  Digits at the end that have no unit stand for seconds. -/
def Groups.seconds? (groups : Groups) : Option UInt64 :=
  if groups.pending = [] then some groups.total
  else do addChecked? groups.total (← amount? groups.pending)

/-- The seconds of a trimmed notation: a number, or else groups. -/
def notedSeconds? (chars : List Char) : Option UInt64 :=
  if chars = [] then none
  else match amount? chars with
    | some seconds => some seconds
    | none => do (← chars.foldlM Groups.read? {}).seconds?

/-- The number of seconds that a text denotes. -/
def readSeconds? (text : String) : Option Nat :=
  (notedSeconds? (Text.trimChars text.toList)).map UInt64.toNat

/-- The duration that a text denotes. -/
def read? (text : String) : Option Duration :=
  (readSeconds? text).map ofSeconds

end Duration

end DataSync
