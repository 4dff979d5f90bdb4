import DataSync.Cbor.Reader

/-!
# Reading written CBOR

A value is read from the octets it was written as, whatever octets follow.  This holds for every value
whose numbers fit into the heads, whose arrays and maps are not nested too deeply, and whose texts have
their lengths in front, because a text is never written in pieces.
-/

namespace DataSync.Cbor

/-- The numbers that a head can hold. -/
def numberLimit : Nat := 0x10000000000000000

@[simp] theorem splitOff_append (start rest : Bytes) :
    splitOff start.length (start ++ rest) = some (start, rest) := by
  simp [splitOff]

/-! ## Heads -/

/-- A head is one octet, whose low bits tell how many octets with the number follow. -/
theorem exists_octets_of_head (kind : Nat) {n : Nat} (fits : n < numberLimit) :
    ∃ low octets, head kind n = UInt8.ofNat (kind * 32 + low) :: octets ∧ low < 28 ∧
      Head.extent low = some octets.length ∧
      (if octets.isEmpty then low else Bytes.toNat octets) = n := by
  unfold numberLimit at fits
  unfold head
  dsimp only
  -- Small numbers stand in the low bits, larger ones in one, two, four or eight octets.
  split
  · rename_i small
    exact ⟨n, [], rfl, by omega, by simp [Head.extent, small], rfl⟩
  split
  · exact ⟨24, [UInt8.ofNat n], rfl, by decide, rfl, by
      simp only [Bytes.toNat, List.isEmpty_cons, Bool.false_eq_true, if_false, List.foldl_cons,
        List.foldl_nil, UInt8.toNat_ofNat']
      omega⟩
  split
  · rename_i word
    exact ⟨25, Bytes.ofWord n, rfl, by decide, rfl, by
      simp only [Bytes.toNat, Bytes.ofWord, List.isEmpty_cons, Bool.false_eq_true, if_false,
        List.foldl_cons, List.foldl_nil, UInt8.toNat_ofNat']
      omega⟩
  split
  · rename_i long
    exact ⟨26, Bytes.ofLong n, rfl, by decide, rfl, Bytes.toNat_ofLong long⟩
  · exact ⟨27, Bytes.ofLong (n / 0x100000000) ++ Bytes.ofLong n, rfl, by decide, rfl, by
      simp only [Bytes.toNat, Bytes.ofLong, List.cons_append, List.nil_append, List.isEmpty_cons,
        Bool.false_eq_true, if_false, List.foldl_cons, List.foldl_nil, UInt8.toNat_ofNat']
      omega⟩

theorem length_head_pos (kind n : Nat) : 0 < (head kind n).length := by
  unfold head
  dsimp only
  repeat' split
  all_goals simp [Bytes.ofWord, Bytes.ofLong]

theorem Head.read_head {kind n : Nat} (isKind : kind < 7) (fits : n < numberLimit) (rest : Bytes) :
    Head.read (head kind n ++ rest) = (ofKind kind (some n)).map (·, rest) := by
  obtain ⟨low, octets, written, isLow, extent, number⟩ := exists_octets_of_head kind fits
  have first : (UInt8.ofNat (kind * 32 + low)).toNat = kind * 32 + low := by
    rw [UInt8.toNat_ofNat']
    omega
  have kindOf : (kind * 32 + low) / 32 = kind := by omega
  have lowOf : (kind * 32 + low) % 32 = low := by omega
  rw [written, List.cons_append, read]
  simp only [first, kindOf, lowOf, extent, show ¬ low = 31 by omega, show ¬ kind = 7 by omega,
    if_false, Option.bind_eq_bind, Option.bind_some, splitOff_append, number]
  cases ofKind kind (some n) <;> rfl

theorem Head.read_simple {n : Nat} (small : n < 256) (rest : Bytes) :
    Head.read (write (.simple n) ++ rest) = some (.simple n, rest) := by
  unfold write
  split
  · rename_i short
    have kindOf : (224 + n) % 256 / 32 = 7 := by omega
    have lowOf : (224 + n) % 32 = n := by omega
    simp [head, short, read, kindOf, lowOf, extent, splitOff, show ¬ n = 31 by omega]
  · simp [read, extent, splitOff, Bytes.toNat, UInt8.toNat_ofNat', Nat.mod_eq_of_lt small]

theorem Head.read_float {octets : Bytes}
    (size : octets.length = 2 ∨ octets.length = 4 ∨ octets.length = 8) (rest : Bytes) :
    Head.read (write (.float octets) ++ rest) = some (.float octets, rest) := by
  have split := splitOff_append octets rest
  obtain size | size | size := size <;> rw [size] at split <;>
    simp [write, size, read, extent, split]

/-! ## Values -/

mutual

/-- A value of which the reader, going at most `depth` levels deep, can read what was written. -/
def Value.Plain : (depth : Nat) → Value → Prop
  | _, .unsigned n => n < numberLimit
  | _, .negative n => n < numberLimit
  | _, .bytes _ => True
  | _, .text definite _ => definite = true
  | 0, .array _ => False
  | depth + 1, .array items => Value.AllPlain depth items
  | 0, .map _ => False
  | depth + 1, .map entries => Value.EntriesPlain depth entries
  | depth, .tagged tag value => tag < numberLimit ∧ value.Plain depth
  | _, .simple n => n < 256
  | _, .float octets => octets.length = 2 ∨ octets.length = 4 ∨ octets.length = 8

def Value.AllPlain : (depth : Nat) → List Value → Prop
  | _, [] => True
  | depth, value :: rest => value.Plain depth ∧ Value.AllPlain depth rest

def Value.EntriesPlain : (depth : Nat) → List (Value × Value) → Prop
  | _, [] => True
  | depth, (key, value) :: rest =>
    key.Plain depth ∧ value.Plain depth ∧ Value.EntriesPlain depth rest

end

theorem length_write_pos (value : Value) : 0 < (write value).length := by
  have positive := length_head_pos
  cases value with
  | simple n =>
    unfold write
    split
    · exact positive 7 n
    · exact Nat.succ_pos _
  | float octets => simp [write]
  | _ => simp only [write, List.length_append, Nat.add_pos_left, positive]

theorem length_le_writeItems (items : List Value) : items.length ≤ (writeItems items).length := by
  induction items with
  | nil => exact Nat.zero_le _
  | cons value rest inductionHypothesis =>
    have positive := length_write_pos value
    rw [writeItems, List.length_append, List.length_cons]
    omega

theorem length_le_writeEntries (entries : List (Value × Value)) :
    entries.length ≤ (writeEntries entries).length := by
  induction entries with
  | nil => exact Nat.zero_le _
  | cons entry rest inductionHypothesis =>
    have positive := length_write_pos entry.1
    rw [writeEntries, List.length_append, List.length_append, List.length_cons]
    omega

mutual

/-- Every value takes a step of the reader, and every item of a list another one, which the octets of
the items pay for. -/
theorem readValue_write : ∀ {value : Value} (fuel : Nat) {depth : Nat}, value.Plain depth →
    (write value).length < numberLimit → 2 * (write value).length ≤ fuel → ∀ rest,
      readValue fuel depth (write value ++ rest) = some (value, rest)
  | value, 0, depth, _, _, enough, _ => by
    have positive := length_write_pos value
    omega
  | .unsigned n, fuel + 1, depth, plain, _, _, rest => by
    rw [write, readValue, Head.read_head (by decide) (by simpa [Value.Plain] using plain)]
    rfl
  | .negative n, fuel + 1, depth, plain, _, _, rest => by
    rw [write, readValue, Head.read_head (by decide) (by simpa [Value.Plain] using plain)]
    rfl
  | .bytes content, fuel + 1, depth, _, small, _, rest => by
    rw [write, List.length_append] at small
    rw [write, readValue, List.append_assoc, Head.read_head (by decide) (by omega)]
    simp [Head.ofKind]
  | .text definite content, fuel + 1, depth, plain, small, _, rest => by
    simp only [Value.Plain] at plain
    subst plain
    rw [write, List.length_append, Bytes.length_ofText] at small
    have split := splitOff_append (Bytes.ofText content) rest
    rw [Bytes.length_ofText] at split
    rw [write, readValue, List.append_assoc, Head.read_head (by decide) (by omega)]
    simp [Head.ofKind, split]
  | .array items, fuel + 1, 0, plain, _, _, _ => by simp [Value.Plain] at plain
  | .array items, fuel + 1, depth + 1, plain, small, enough, rest => by
    have positive := length_head_pos 4 items.length
    have fewer := length_le_writeItems items
    simp only [Value.Plain] at plain
    rw [write, List.length_append] at small enough
    -- No more items than octets, so their number fits into the head.
    rw [write, readValue, List.append_assoc, Head.read_head (by decide) (by omega)]
    simp [Head.ofKind, readItems_writeItems fuel plain (by omega) (by omega) rest]
  | .map entries, fuel + 1, 0, plain, _, _, _ => by simp [Value.Plain] at plain
  | .map entries, fuel + 1, depth + 1, plain, small, enough, rest => by
    have positive := length_head_pos 5 entries.length
    have fewer := length_le_writeEntries entries
    simp only [Value.Plain] at plain
    rw [write, List.length_append] at small enough
    rw [write, readValue, List.append_assoc, Head.read_head (by decide) (by omega)]
    simp [Head.ofKind, readEntries_writeEntries fuel plain (by omega) (by omega) rest]
  | .tagged tag value, fuel + 1, depth, plain, small, enough, rest => by
    have positive := length_head_pos 6 tag
    simp only [Value.Plain] at plain
    rw [write, List.length_append] at small enough
    rw [write, readValue, List.append_assoc, Head.read_head (by decide) plain.1]
    simp [Head.ofKind, readValue_write fuel plain.2 (by omega) (by omega) rest]
  | .simple n, fuel + 1, depth, plain, _, _, rest => by
    rw [readValue, Head.read_simple (by simpa [Value.Plain] using plain)]
    rfl
  | .float octets, fuel + 1, depth, plain, _, _, rest => by
    rw [readValue, Head.read_float (by simpa [Value.Plain] using plain)]
    rfl

theorem readItems_writeItems : ∀ {items : List Value} (fuel : Nat) {depth : Nat},
    Value.AllPlain depth items → (writeItems items).length < numberLimit →
    2 * (writeItems items).length + 1 ≤ fuel → ∀ rest,
      readItems fuel depth (some items.length) (writeItems items ++ rest) = some (items, rest)
  | [], fuel, depth, _, _, _, rest => by simp [readItems, writeItems]
  | value :: items, fuel, depth, plain, small, enough, rest => by
    have positive := length_write_pos value
    simp only [Value.AllPlain] at plain
    rw [writeItems, List.length_append] at small enough
    obtain ⟨fuel, rfl⟩ : ∃ less, fuel = less + 1 := ⟨fuel - 1, by omega⟩
    have first := readValue_write fuel plain.1 (by omega) (by omega)
      (writeItems items ++ rest)
    have others := readItems_writeItems fuel plain.2 (by omega) (by omega) rest
    simp [readItems, writeItems, first, others]

theorem readEntries_writeEntries : ∀ {entries : List (Value × Value)} (fuel : Nat) {depth : Nat},
    Value.EntriesPlain depth entries → (writeEntries entries).length < numberLimit →
    2 * (writeEntries entries).length + 1 ≤ fuel → ∀ rest,
      readEntries fuel depth (some entries.length) (writeEntries entries ++ rest) =
        some (entries, rest)
  | [], fuel, depth, _, _, _, rest => by simp [readEntries, writeEntries]
  | (key, value) :: entries, fuel, depth, plain, small, enough, rest => by
    have positive := length_write_pos key
    have positive' := length_write_pos value
    simp only [Value.EntriesPlain] at plain
    rw [writeEntries, List.length_append, List.length_append] at small enough
    obtain ⟨fuel, rfl⟩ : ∃ less, fuel = less + 1 := ⟨fuel - 1, by omega⟩
    have first := readValue_write fuel plain.1 (by omega) (by omega)
      (write value ++ (writeEntries entries ++ rest))
    have second := readValue_write fuel plain.2.1 (by omega) (by omega)
      (writeEntries entries ++ rest)
    have others := readEntries_writeEntries fuel plain.2.2 (by omega) (by omega) rest
    simp [readEntries, writeEntries, first, second, others]

end

/-- A plain value is read from what was written, whatever follows. -/
theorem read_write {value : Value} {depth : Nat} (plain : value.Plain depth)
    (small : (write value).length < numberLimit) (rest : Bytes) :
    read depth (write value ++ rest) = some (value, rest) := by
  refine readValue_write _ plain small ?_ rest
  rw [List.length_append]
  omega

end DataSync.Cbor
