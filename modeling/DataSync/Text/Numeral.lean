/-!
# Numerals

Unsigned decimal and hexadecimal numbers in text.  A reader of a *field* also admits a plus sign
in front of the digits, a reader of *digits* does not.
-/

namespace DataSync.Text

/-- The value of a decimal digit. -/
def decimalDigit? (c : Char) : Option Nat :=
  if '0' ≤ c ∧ c ≤ '9' then some (c.toNat - '0'.toNat) else none

/-- The value of a hexadecimal digit of either case. -/
def hexDigit? (c : Char) : Option Nat :=
  if '0' ≤ c ∧ c ≤ '9' then some (c.toNat - '0'.toNat)
  else if 'a' ≤ c ∧ c ≤ 'f' then some (c.toNat - 'a'.toNat + 10)
  else if 'A' ≤ c ∧ c ≤ 'F' then some (c.toNat - 'A'.toNat + 10)
  else none

/-- The value of further decimal digits after those that made `value`. -/
def digitsFrom? (value : Nat) : List Char → Option Nat
  | [] => some value
  | c :: rest => do digitsFrom? (value * 10 + (← decimalDigit? c)) rest

/-- The number written by one or more decimal digits. -/
def digits? : List Char → Option Nat
  | [] => none
  | chars => digitsFrom? 0 chars

theorem decimalDigit?_of_isDigit {c : Char} (digit : c.isDigit = true) :
    decimalDigit? c = some (c.toNat - '0'.toNat) := by
  have within : 48 ≤ c.val ∧ c.val ≤ 57 := by simpa [Char.isDigit] using digit
  exact if_pos within

theorem digitsFrom?_of_isDigit {chars : List Char} (digits : ∀ c ∈ chars, c.isDigit = true)
    (value : Nat) : digitsFrom? value chars = some (Nat.ofDigitChars 10 chars value) := by
  induction chars generalizing value with
  | nil => simp [digitsFrom?]
  | cons c rest inductionHypothesis =>
    have first := decimalDigit?_of_isDigit (digits c List.mem_cons_self)
    have later := inductionHypothesis fun other member => digits other (List.mem_cons_of_mem c member)
    simp [digitsFrom?, first, later, Nat.ofDigitChars_cons, Nat.mul_comm]

/-- A number is read as it is written. -/
theorem digits?_toDigits (n : Nat) : digits? (Nat.toDigits 10 n) = some n := by
  have digits : ∀ c ∈ Nat.toDigits 10 n, c.isDigit = true := fun c member =>
    Nat.isDigit_of_mem_toDigits (by decide) (by decide) member
  have read := digitsFrom?_of_isDigit digits 0
  rw [Nat.ofDigitChars_ten_toDigits] at read
  cases shape : Nat.toDigits 10 n with
  | nil => exact absurd shape Nat.toDigits_ne_nil
  | cons c rest =>
    rw [shape] at read
    exact read

/-- The number below `limit` written by decimal digits, with an optional plus sign in front. -/
def unsigned? (limit : Nat) (chars : List Char) : Option Nat :=
  let value := match chars with
    | '+' :: rest => digits? rest
    | _ => digits? chars
  value.filter (· < limit)

/-- The two lower case hexadecimal digits of an octet. -/
def hexOctet (b : UInt8) : List Char :=
  [Nat.digitChar (b.toNat / 16), Nat.digitChar (b.toNat % 16)]

/-- The lower case hexadecimal digits of octets. -/
def hexOctets (bytes : List UInt8) : String :=
  String.ofList (bytes.flatMap hexOctet)

/-- The lower case hexadecimal digits of a number, without leading zeros. -/
def hex (n : Nat) : String :=
  String.ofList (Nat.toDigits 16 n)

/-- The number below 256 written in a field of two characters: two hexadecimal digits, or a plus
sign and one digit. -/
def octetField? (first second : Char) : Option UInt8 :=
  match hexDigit? second with
  | none => none
  | some low =>
    if first = '+' then some (UInt8.ofNat low)
    else (hexDigit? first).map fun high => UInt8.ofNat (high * 16 + low)

end DataSync.Text
