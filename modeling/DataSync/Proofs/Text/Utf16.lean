import DataSync.Text.Utf16

/-!
# Reading written UTF-16

Units are read as the characters that were written, and the zero unit stands for the zero character
only.
-/

namespace DataSync.Text.Utf16

theorem toNat_cases (c : Char) :
    c.toNat < 0xD800 ∨ 0xDFFF < c.toNat ∧ c.toNat < 0x110000 := by
  have valid := c.valid
  simpa [UInt32.isValidChar, Nat.isValidChar] using valid

theorem not_paired_of_small {c : Char} (small : c.toNat < 0x10000) :
    isLeading c.toNat = false ∧ isTrailing c.toNat = false := by
  have valid := toNat_cases c
  simp only [isLeading, isTrailing, Bool.and_eq_false_iff, decide_eq_false_iff_not]
  omega

theorem decode_encodeChar_append (c : Char) (rest : List Nat) :
    decode (encodeChar c ++ rest) = (decode rest).map (c :: ·) := by
  have valid := toNat_cases c
  unfold encodeChar
  split
  · rename_i small
    obtain ⟨notLeading, notTrailing⟩ := not_paired_of_small small
    cases rest with
    | nil => simp [decode, notLeading, notTrailing]
    | cons next rest => simp [decode, notLeading, notTrailing]
  · rename_i large
    -- The units of a pair are told apart by their ranges, and the arithmetic gives the character back.
    have leading : isLeading (0xD800 + (c.toNat - 0x10000) / 0x400) = true := by
      simp only [isLeading, Bool.and_eq_true, decide_eq_true_eq]
      omega
    have notTrailing : isTrailing (0xD800 + (c.toNat - 0x10000) / 0x400) = false := by
      simp only [isTrailing, Bool.and_eq_false_iff, decide_eq_false_iff_not]
      omega
    have trailing : isTrailing (0xDC00 + (c.toNat - 0x10000) % 0x400) = true := by
      simp only [isTrailing, Bool.and_eq_true, decide_eq_true_eq]
      omega
    have value : 0x10000 + (0xD800 + (c.toNat - 0x10000) / 0x400 - 0xD800) * 0x400
        + (0xDC00 + (c.toNat - 0x10000) % 0x400 - 0xDC00) = c.toNat := by
      omega
    simp only [List.cons_append, List.nil_append, decode, leading, notTrailing, trailing, if_true,
      Bool.false_eq_true, if_false, value, Char.ofNat_toNat]

/-- Units are read as the characters that were written. -/
theorem decode_encode (chars : List Char) : decode (encode chars) = some chars := by
  induction chars with
  | nil => rfl
  | cons c rest inductionHypothesis =>
    have step := decode_encodeChar_append c (encode rest)
    rw [inductionHypothesis] at step
    exact step

theorem lt_of_mem_encode {unit : Nat} {chars : List Char} (member : unit ∈ encode chars) :
    unit < 0x10000 := by
  obtain ⟨c, -, written⟩ := List.mem_flatMap.1 member
  have valid := toNat_cases c
  rw [encodeChar] at written
  split at written
  · rename_i small
    rw [List.mem_singleton.1 written]
    exact small
  · simp only [List.mem_cons, List.not_mem_nil, or_false] at written
    omega

theorem ne_zero_of_mem_encode {unit : Nat} {chars : List Char} (noZero : '\x00' ∉ chars)
    (member : unit ∈ encode chars) : unit ≠ 0 := by
  obtain ⟨c, inText, written⟩ := List.mem_flatMap.1 member
  rw [encodeChar] at written
  split at written
  · rw [List.mem_singleton.1 written]
    intro zero
    have same : c = '\x00' := by rw [← Char.ofNat_toNat c, zero]
    exact noZero (same ▸ inText)
  · simp only [List.mem_cons, List.not_mem_nil, or_false] at written
    omega

/-- The units before the first zero unit are those of the characters before the first zero character. -/
theorem takeWhile_encode (chars : List Char) :
    (encode chars ++ [0]).takeWhile (· ≠ 0) = encode (chars.takeWhile (· ≠ '\x00')) := by
  induction chars with
  | nil => simp [encode]
  | cons c rest inductionHypothesis =>
    by_cases zero : c = '\x00'
    · subst c
      simp [encode, encodeChar]
    · have nonzero : ∀ unit ∈ encodeChar c, decide (unit ≠ 0) = true := by
        intro unit member
        have written : unit ∈ encode [c] := by simpa [encode] using member
        have noZero : '\x00' ∉ [c] := by simpa using Ne.symm zero
        simpa using ne_zero_of_mem_encode noZero written
      have first : encode (c :: rest) = encodeChar c ++ encode rest := rfl
      have kept : (c :: rest).takeWhile (· ≠ '\x00') = c :: rest.takeWhile (· ≠ '\x00') := by
        simp [zero]
      rw [first, kept, List.append_assoc, List.takeWhile_append_of_pos nonzero, inductionHypothesis]
      rfl

theorem ofNat_ne_zero {n : Nat} (valid : n.isValidChar) (positive : n ≠ 0) :
    Char.ofNat n ≠ '\x00' := by
  intro zero
  have number : (Char.ofNat n).toNat = n := by
    rw [Char.ofNat, dif_pos valid]
    rfl
  rw [zero] at number
  exact positive number.symm

theorem ofNat_ne_zero_of_unpaired {unit : Nat} (positive : unit ≠ 0) (small : unit < 0x10000)
    (notLeading : isLeading unit = false) (notTrailing : isTrailing unit = false) :
    Char.ofNat unit ≠ '\x00' := by
  refine ofNat_ne_zero ?_ positive
  simp only [isLeading, isTrailing, Bool.and_eq_false_iff, decide_eq_false_iff_not] at *
  simp only [Nat.isValidChar]
  omega

/-- No character is zero that was read from units of which none is. -/
theorem zero_not_mem_of_decode {units : List Nat} {chars : List Char}
    (noZero : ∀ unit ∈ units, unit ≠ 0 ∧ unit < 0x10000) (decoded : decode units = some chars) :
    '\x00' ∉ chars := by
  fun_induction decode units generalizing chars with
  | case1 =>
    cases decoded
    simp
  | case2 unit paired => simp at decoded
  | case3 unit unpaired =>
    cases decoded
    obtain ⟨positive, small⟩ := noZero unit List.mem_cons_self
    simp only [Bool.or_eq_true, not_or, Bool.not_eq_true] at unpaired
    simpa using (ofNat_ne_zero_of_unpaired positive small unpaired.1 unpaired.2).symm
  | case4 first second rest trailing => simp at decoded
  | case5 first second rest notTrailing leading trailing inductionHypothesis =>
    obtain ⟨others, decodedRest, rfl⟩ := Option.map_eq_some_iff.1 decoded
    have noZeroRest := inductionHypothesis
      (fun unit member => noZero unit (by simp [member])) decodedRest
    -- A pair stands for a character from 0x10000 on.
    have paired : Char.ofNat (0x10000 + (first - 0xD800) * 0x400 + (second - 0xDC00)) ≠ '\x00' := by
      refine ofNat_ne_zero ?_ (by omega)
      simp only [isLeading, isTrailing, Bool.and_eq_true, decide_eq_true_eq] at leading trailing
      simp only [Nat.isValidChar]
      omega
    simp [paired.symm, noZeroRest]
  | case6 first second rest notTrailing leading notSecond => simp at decoded
  | case7 first second rest notTrailing notLeading inductionHypothesis =>
    obtain ⟨others, decodedRest, rfl⟩ := Option.map_eq_some_iff.1 decoded
    have noZeroRest := inductionHypothesis
      (fun unit member => noZero unit (List.mem_cons_of_mem _ member)) decodedRest
    obtain ⟨positive, small⟩ := noZero first List.mem_cons_self
    have unpaired := ofNat_ne_zero_of_unpaired positive small
      (eq_false_of_ne_true notLeading) (eq_false_of_ne_true notTrailing)
    simp [unpaired.symm, noZeroRest]

end DataSync.Text.Utf16
