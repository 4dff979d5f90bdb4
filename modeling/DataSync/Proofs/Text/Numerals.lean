import DataSync.Text.Numeral

/-!
# Reading numerals

Which texts the readers of numbers take for which numbers, stated without the readers: one or more
digits and their value, and for a field with an optional plus sign.
-/

namespace DataSync.Text

variable {c : Char} {chars : List Char} {n limit value : Nat}

/-- A number is written by one or more decimal digits. -/
structure Writes (chars : List Char) (n : Nat) : Prop where
  nonempty : chars ≠ []
  digits : ∀ c ∈ chars, c.isDigit = true
  value : Nat.ofDigitChars 10 chars 0 = n

theorem isDigit_of_decimalDigit? {digit : Nat} (read : decimalDigit? c = some digit) :
    c.isDigit = true := by
  rw [decimalDigit?] at read
  split at read
  · rename_i within
    have values : 48 ≤ c.val ∧ c.val ≤ 57 := within
    simpa [Char.isDigit] using values
  · cases read

theorem isDigit_of_digitsFrom? (read : digitsFrom? value chars = some n) :
    ∀ c ∈ chars, c.isDigit = true := by
  induction chars generalizing value with
  | nil => exact nofun
  | cons head rest inductionHypothesis =>
    obtain ⟨digit, first, later⟩ := Option.bind_eq_some_iff.1 read
    exact List.forall_mem_cons.2 ⟨isDigit_of_decimalDigit? first, inductionHypothesis later⟩

theorem digits?_eq_some_iff : digits? chars = some n ↔ Writes chars n := by
  cases chars with
  | nil => exact ⟨nofun, fun written => absurd rfl written.nonempty⟩
  | cons head rest =>
    constructor
    · intro read
      have digits := isDigit_of_digitsFrom? read
      have same := digitsFrom?_of_isDigit digits 0
      exact ⟨nofun, digits, Option.some.inj (same.symm.trans read)⟩
    · intro written
      exact (digitsFrom?_of_isDigit written.digits 0).trans (congrArg some written.value)

/-- Hexadecimal digits are ASCII characters. -/
theorem toNat_lt_of_hexDigit? (digit : (hexDigit? c).isSome = true) : c.toNat < 128 := by
  have ranges : ∀ {low high : Char}, low ≤ c ∧ c ≤ high → high.toNat < 128 → c.toNat < 128 :=
    fun within ascii => Nat.lt_of_le_of_lt within.2 ascii
  unfold hexDigit? at digit
  split at digit
  · exact ranges ‹_› (by decide)
  · split at digit
    · exact ranges ‹_› (by decide)
    · split at digit
      · exact ranges ‹_› (by decide)
      · cases digit

/-- A sign is no digit. -/
theorem not_writes_plus : ¬ Writes ('+' :: chars) n := fun written =>
  absurd (written.digits '+' List.mem_cons_self) (by decide)

/-- A field holds the digits of a number, or a plus sign and the digits of the number. -/
theorem unsigned?_eq_some_iff :
    unsigned? limit chars = some n ↔
      n < limit ∧ (Writes chars n ∨ ∃ digits, chars = '+' :: digits ∧ Writes digits n) := by
  unfold unsigned?
  rw [Option.filter_eq_some_iff, decide_eq_true_eq, and_comm]
  refine and_congr_right fun _ => ?_
  split
  · rename_i digits
    rw [digits?_eq_some_iff]
    constructor
    · exact fun written => .inr ⟨digits, rfl, written⟩
    · rintro (written | ⟨_, ⟨⟩, written⟩)
      · exact absurd written not_writes_plus
      · exact written
  · rename_i unsigned
    rw [digits?_eq_some_iff]
    constructor
    · exact .inl
    · rintro (written | ⟨digits, signed, -⟩)
      · exact written
      · exact absurd signed (unsigned digits)

theorem plus_or_isDigit_of_unsigned? (read : unsigned? limit chars = some n) :
    ∀ c ∈ chars, c = '+' ∨ c.isDigit = true := by
  obtain ⟨-, written | ⟨digits, rfl, written⟩⟩ := unsigned?_eq_some_iff.1 read
  · exact fun c member => .inr (written.digits c member)
  · exact List.forall_mem_cons.2 ⟨.inl rfl, fun c member => .inr (written.digits c member)⟩

/-- A number is written by the digits of its written form. -/
theorem writes_toDigits (n : Nat) : Writes (Nat.toDigits 10 n) n :=
  digits?_eq_some_iff.1 (digits?_toDigits n)

end DataSync.Text
