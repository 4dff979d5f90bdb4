import DataSync.Duration
import DataSync.Proofs.Text.Numerals
import Mathlib.Algebra.GroupWithZero.Nat
import Mathlib.Data.List.Induction

/-!
# Reading durations

Which texts are durations and of how many seconds, stated without the reader: a number, or numbers with
the letters of units, which come to a sum.  The reader counts in words, and its words hold the exact
numbers at every point of a text.
-/

namespace DataSync.Duration

open DataSync.Text

variable {a b c : UInt64} {chars : List Char} {letter : Char} {n : Nat}

/-! ## Words -/

theorem exists_toNat_eq (fits : n < 2 ^ 64) : ∃ word : UInt64, word.toNat = n :=
  ⟨UInt64.ofNat n, UInt64.toNat_ofNat_of_lt' fits⟩

theorem some_of_fits_iff {result : Nat} (exact : result < UInt64.size → a.toNat = result) :
    (if result < UInt64.size then some a else none) = some c ↔ c.toNat = result := by
  have limit := c.toNat_lt
  split
  · rename_i fits
    rw [Option.some.injEq, ← UInt64.toNat_inj, exact fits]
    exact eq_comm
  · simp only [UInt64.size] at *
    constructor
    · exact nofun
    · omega

theorem addChecked?_eq_some_iff : addChecked? a b = some c ↔ c.toNat = a.toNat + b.toNat := by
  apply some_of_fits_iff
  intro fits
  rw [UInt64.toNat_add]
  exact Nat.mod_eq_of_lt fits

theorem mulChecked?_eq_some_iff : mulChecked? a b = some c ↔ c.toNat = a.toNat * b.toNat := by
  apply some_of_fits_iff
  intro fits
  rw [UInt64.toNat_mul]
  exact Nat.mod_eq_of_lt fits

theorem amount?_eq_some_iff : amount? chars = some c ↔
    Writes chars c.toNat ∨ ∃ digits, chars = '+' :: digits ∧ Writes digits c.toNat := by
  rw [amount?, Option.map_eq_some_iff]
  constructor
  · rintro ⟨n, read, rfl⟩
    obtain ⟨small, written⟩ := unsigned?_eq_some_iff.1 read
    rwa [UInt64.toNat_ofNat_of_lt' small]
  · intro written
    exact ⟨c.toNat, unsigned?_eq_some_iff.2 ⟨c.toNat_lt, written⟩, UInt64.ofNat_toNat⟩

theorem amount?_of_digits (digits : ∀ c ∈ chars, c.isDigit = true) :
    amount? chars = some c ↔ Writes chars c.toNat := by
  rw [amount?_eq_some_iff]
  constructor
  · rintro (written | ⟨_, rfl, _⟩)
    · exact written
    · exact absurd (digits '+' List.mem_cons_self) (by decide)
  · exact .inl

/-! ## Notations -/

/-- The letters of the units, with their seconds. -/
def unitLetters : List (Char × Nat) :=
  [('d', 86400), ('D', 86400), ('h', 3600), ('H', 3600), ('m', 60), ('M', 60), ('s', 1), ('S', 1)]

/-- A number and the letter of its unit. -/
structure Group where
  digits : List Char
  amount : Nat
  letter : Char
  unit : Nat
  written : Writes digits amount
  known : (letter, unit) ∈ unitLetters

def Group.spelling (group : Group) : List Char :=
  group.digits ++ [group.letter]

def Group.seconds (group : Group) : Nat :=
  group.amount * group.unit

/-- What trimmed characters denote: a number of seconds, which may have a plus sign, or one group or more,
which may have seconds without a unit after them. -/
inductive Denotes : List Char → Nat → Prop where
  | number {chars : List Char} {n : Nat} (written : Writes chars n) : Denotes chars n
  | signed {digits : List Char} {n : Nat} (written : Writes digits n) : Denotes ('+' :: digits) n
  | groups (first : Group) (more : List Group) {trailing : List Char}
      (digits : ∀ c ∈ trailing, c.isDigit = true) :
      Denotes ((first :: more).flatMap Group.spelling ++ trailing)
        (((first :: more).map Group.seconds).sum + Nat.ofDigitChars 10 trailing 0)

theorem toNat_lt_of_unitSeconds? (known : (unitSeconds? letter).isSome = true) :
    letter.toNat < 128 := by
  apply Decidable.byContradiction
  intro large
  -- Only ASCII letters have another case.
  have same : letter.toLower = letter :=
    dif_neg fun upper => large (Nat.lt_of_le_of_lt upper.2 (by decide))
  rw [unitSeconds?, same] at known
  split at known
  case h_5 => cases known
  all_goals exact large (by decide)

theorem unitSeconds?_eq_some_iff :
    unitSeconds? letter = some c ↔ (letter, c.toNat) ∈ unitLetters := by
  constructor
  · intro known
    have small := toNat_lt_of_unitSeconds? (Option.isSome_of_mem known)
    have all : ∀ n < 128, ∀ seconds ∈ (unitSeconds? (Char.ofNat n)).map UInt64.toNat,
        (Char.ofNat n, seconds) ∈ unitLetters := by decide
    have found := all letter.toNat small c.toNat
    rw [Char.ofNat_toNat] at found
    exact found (Option.mem_map_of_mem UInt64.toNat known)
  · intro listed
    have all : ∀ pair ∈ unitLetters, (unitSeconds? pair.1).map UInt64.toNat = some pair.2 := by decide
    obtain ⟨unit, known, same⟩ := Option.map_eq_some_iff.1 (all _ listed)
    rw [known, UInt64.toNat_inj.1 same]

namespace Group

variable {group : Group}

theorem isDigit_letter (group : Group) : group.letter.isDigit = false := by
  have all : ∀ pair ∈ unitLetters, pair.1.isDigit = false := by decide
  exact all _ group.known

theorem letter_ne_plus (group : Group) : group.letter ≠ '+' := by
  have all : ∀ pair ∈ unitLetters, pair.1 ≠ '+' := by decide
  exact all _ group.known

theorem unit_pos (group : Group) : 0 < group.unit := by
  have all : ∀ pair ∈ unitLetters, 0 < pair.2 := by decide
  exact all _ group.known

theorem unit_le (group : Group) : group.unit ≤ 86400 := by
  have all : ∀ pair ∈ unitLetters, pair.2 ≤ 86400 := by decide
  exact all _ group.known

theorem amount_le_seconds (group : Group) : group.amount ≤ group.seconds :=
  Nat.le_mul_of_pos_right group.amount group.unit_pos

theorem letter_mem_flatMap (group : Group) (others : List Group) (trailing : List Char) :
    group.letter ∈ (group :: others).flatMap spelling ++ trailing := by
  simp [spelling]

/-- Characters with the letter of a unit are no number. -/
theorem not_number (group : Group) (member : group.letter ∈ chars) :
    ¬ ∀ c ∈ chars, c = '+' ∨ c.isDigit = true := by
  intro numeral
  obtain plus | digit := numeral group.letter member
  · exact group.letter_ne_plus plus
  · exact Bool.false_ne_true (group.isDigit_letter.symm.trans digit)

end Group

/-! ## Reading character by character -/

/-- Characters are groups that come to the total, and the digits that wait for a unit. -/
def Stands (chars : List Char) (state : Groups) : Prop :=
  ∃ groups : List Group, chars = groups.flatMap Group.spelling ++ state.pending ∧
    (∀ c ∈ state.pending, c.isDigit = true) ∧
    state.total.toNat = (groups.map Group.seconds).sum

theorem read?_of_digit (digit : letter.isDigit = true) (state : Groups) :
    state.read? letter = some { state with pending := state.pending ++ [letter] } := by
  rw [Groups.read?, if_pos digit]

/-- A character that is no digit ends a group, and the word for the total holds the exact sum. -/
theorem read?_eq_some_iff {state next : Groups} (digits : ∀ c ∈ state.pending, c.isDigit = true)
    (notDigit : letter.isDigit = false) :
    state.read? letter = some next ↔
      ∃ group : Group, group.digits = state.pending ∧ group.letter = letter ∧ next.pending = [] ∧
        next.total.toNat = state.total.toNat + group.seconds := by
  have unfolded : state.read? letter = some next ↔
      ∃ unit, unitSeconds? letter = some unit ∧ ∃ amount, amount? state.pending = some amount ∧
        ∃ seconds, mulChecked? amount unit = some seconds ∧
          ∃ total, addChecked? state.total seconds = some total ∧ { total } = next := by
    simp [Groups.read?, notDigit, Option.bind_eq_some_iff]
  simp only [unfolded, unitSeconds?_eq_some_iff, amount?_of_digits digits, mulChecked?_eq_some_iff,
    addChecked?_eq_some_iff]
  constructor
  · rintro ⟨unit, known, amount, written, seconds, product, total, sum, rfl⟩
    exact ⟨⟨state.pending, amount.toNat, letter, unit.toNat, written, known⟩, rfl, rfl, rfl,
      by rw [sum, product, Group.seconds]⟩
  · rintro ⟨group, same, rfl, ended, sum⟩
    -- No number on the way is greater than the total.
    have limit := next.total.toNat_lt
    have amountSmall := group.amount_le_seconds
    have unitSmall := group.unit_le
    obtain ⟨unit, unitIs⟩ := exists_toNat_eq (n := group.unit) (by omega)
    obtain ⟨amount, amountIs⟩ := exists_toNat_eq (n := group.amount) (by omega)
    obtain ⟨seconds, secondsAre⟩ := exists_toNat_eq (n := group.seconds) (by omega)
    refine ⟨unit, ?_, amount, ?_, seconds, ?_, next.total, ?_, ?_⟩
    · rw [unitIs]
      exact group.known
    · rw [amountIs, ← same]
      exact group.written
    · rw [secondsAre, amountIs, unitIs, Group.seconds]
    · rw [secondsAre, sum]
    · rw [← ended]

/-- Each character keeps the exact sum. -/
theorem Stands.read {state next : Groups} (stands : Stands chars state)
    (read : state.read? letter = some next) : Stands (chars ++ [letter]) next := by
  obtain ⟨groups, rfl, digits, total⟩ := stands
  cases digit : letter.isDigit with
  | true =>
    rw [read?_of_digit digit] at read
    cases read
    refine ⟨groups, by simp, ?_, total⟩
    intro c member
    obtain pending | last := List.mem_append.1 member
    · exact digits c pending
    · rw [List.mem_singleton.1 last]
      exact digit
  | false =>
    obtain ⟨group, pending, rfl, ended, sum⟩ := (read?_eq_some_iff digits digit).1 read
    refine ⟨groups ++ [group], ?_, ?_, ?_⟩
    · simp [Group.spelling, pending, ended]
    · rw [ended]
      exact nofun
    · rw [sum, total]
      simp

theorem foldlM_digits {digits : List Char} (all : ∀ c ∈ digits, c.isDigit = true) (state : Groups) :
    digits.foldlM Groups.read? state =
      some { state with pending := state.pending ++ digits } := by
  induction digits generalizing state with
  | nil => simp
  | cons digit rest inductionHypothesis =>
    obtain ⟨first, others⟩ := List.forall_mem_cons.1 all
    rw [List.foldlM_cons, read?_of_digit first, Option.bind_eq_bind, Option.bind_some,
      inductionHypothesis others]
    simp

/-- Groups are read if a word holds their sum, since it then holds the sum of the first ones. -/
theorem foldlM_groups (groups : List Group) {total : UInt64} (start : UInt64)
    (sum : total.toNat = start.toNat + (groups.map Group.seconds).sum) :
    (groups.flatMap Group.spelling).foldlM Groups.read? { total := start } = some { total } := by
  induction groups generalizing start with
  | nil =>
    have same : total = start := UInt64.toNat_inj.1 (by simpa using sum)
    simp [same]
  | cons group others inductionHypothesis =>
    rw [List.map_cons, List.sum_cons, ← Nat.add_assoc] at sum
    have limit := total.toNat_lt
    obtain ⟨between, value⟩ := exists_toNat_eq (n := start.toNat + group.seconds) (by omega)
    have digits := foldlM_digits group.written.digits { total := start }
    have letter : Groups.read? { total := start, pending := group.digits } group.letter =
        some { total := between } :=
      (read?_eq_some_iff group.written.digits group.isDigit_letter).2 ⟨group, rfl, rfl, rfl, value⟩
    have later := inductionHypothesis between (by rw [value]; exact sum)
    rw [List.flatMap_cons, Group.spelling, List.append_assoc, List.foldlM_append, digits,
      Option.bind_eq_bind, Option.bind_some, List.singleton_append, List.foldlM_cons,
      List.nil_append, letter, Option.bind_eq_bind, Option.bind_some, later]

/-- The words of a reader hold the exact numbers wherever it is, and it gets there if they do. -/
theorem foldlM_read?_eq_some_iff {state : Groups} :
    chars.foldlM Groups.read? {} = some state ↔ Stands chars state := by
  constructor
  · intro read
    induction chars using List.reverseRecOn generalizing state with
    | nil =>
      cases read
      exact ⟨[], rfl, nofun, rfl⟩
    | append_singleton before letter inductionHypothesis =>
      rw [List.foldlM_append, Option.bind_eq_bind, Option.bind_eq_some_iff] at read
      obtain ⟨earlier, readBefore, readLast⟩ := read
      exact (inductionHypothesis readBefore).read (by simpa using readLast)
  · rintro ⟨groups, rfl, digits, sum⟩
    have first : (groups.flatMap Group.spelling).foldlM Groups.read? {} =
        some { total := state.total } := foldlM_groups groups 0 (by simpa using sum)
    rw [List.foldlM_append, first, Option.bind_eq_bind, Option.bind_some, foldlM_digits digits]
    rfl

theorem seconds?_eq_some_iff {state : Groups} (digits : ∀ c ∈ state.pending, c.isDigit = true) :
    state.seconds? = some c ↔
      c.toNat = state.total.toNat + Nat.ofDigitChars 10 state.pending 0 := by
  unfold Groups.seconds?
  split
  · rename_i empty
    rw [empty, Option.some.injEq, ← UInt64.toNat_inj]
    exact eq_comm
  · rename_i waiting
    simp only [Option.bind_eq_bind, Option.bind_eq_some_iff, amount?_of_digits digits,
      addChecked?_eq_some_iff]
    constructor
    · rintro ⟨amount, written, sum⟩
      rw [sum, written.value]
    · intro sum
      have limit := c.toNat_lt
      obtain ⟨amount, value⟩ := exists_toNat_eq (n := Nat.ofDigitChars 10 state.pending 0) (by omega)
      exact ⟨amount, ⟨waiting, digits, value.symm⟩, by rw [value, sum]⟩

/-! ## Reading whole texts -/

theorem amount?_of_groups (first : Group) (more : List Group) (trailing : List Char) :
    amount? ((first :: more).flatMap Group.spelling ++ trailing) = none := by
  cases read : amount? ((first :: more).flatMap Group.spelling ++ trailing) with
  | none => rfl
  | some amount =>
    obtain ⟨n, number, -⟩ := Option.map_eq_some_iff.1 read
    have numeral := plus_or_isDigit_of_unsigned? number
    exact absurd numeral (first.not_number (first.letter_mem_flatMap more trailing))

theorem denotes_of_notedSeconds? (read : notedSeconds? chars = some c) : Denotes chars c.toNat := by
  rw [notedSeconds?] at read
  split at read
  · cases read
  · rename_i nonempty
    split at read
    · rename_i amount number
      cases read
      obtain written | ⟨digits, rfl, written⟩ := amount?_eq_some_iff.1 number
      · exact .number written
      · exact .signed written
    · obtain ⟨state, folded, total⟩ := Option.bind_eq_some_iff.1 read
      obtain ⟨groups, rfl, digits, sum⟩ := foldlM_read?_eq_some_iff.1 folded
      rw [seconds?_eq_some_iff digits, sum] at total
      cases groups with
      | nil => exact .number ⟨nonempty, digits, by simpa using total.symm⟩
      | cons first more =>
        rw [total]
        exact .groups first more digits

theorem Denotes.notedSeconds? (denotes : Denotes chars n) (fits : c.toNat = n) :
    notedSeconds? chars = some c := by
  cases denotes with
  | number written =>
    have read : amount? chars = some c := amount?_eq_some_iff.2 (.inl (fits ▸ written))
    rw [Duration.notedSeconds?, if_neg written.nonempty, read]
  | @signed digits _ written =>
    have read : amount? ('+' :: digits) = some c :=
      amount?_eq_some_iff.2 (.inr ⟨digits, rfl, fits ▸ written⟩)
    rw [Duration.notedSeconds?, if_neg (List.cons_ne_nil _ _), read]
  | @groups first more trailing digits =>
    have limit := c.toNat_lt
    obtain ⟨total, value⟩ := exists_toNat_eq (n := ((first :: more).map Group.seconds).sum) (by omega)
    have folded : ((first :: more).flatMap Group.spelling ++ trailing).foldlM Groups.read? {} =
        some ⟨total, trailing⟩ := foldlM_read?_eq_some_iff.2 ⟨first :: more, rfl, digits, value⟩
    have sum : Groups.seconds? ⟨total, trailing⟩ = some c :=
      (seconds?_eq_some_iff digits).2 (by rw [fits, value])
    have nonempty := List.ne_nil_of_mem (first.letter_mem_flatMap more trailing)
    rw [Duration.notedSeconds?, if_neg nonempty, amount?_of_groups]
    simp only [folded]
    exact sum

theorem notedSeconds?_eq_some_iff : notedSeconds? chars = some c ↔ Denotes chars c.toNat :=
  ⟨denotes_of_notedSeconds?, fun denotes => denotes.notedSeconds? rfl⟩

theorem read?_eq_some_ofSeconds_iff {text : String} :
    read? text = some (ofSeconds n) ↔
      n < UInt64.size ∧ Denotes (trimChars text.toList) n := by
  rw [read?, readSeconds?, Option.map_map, Option.map_eq_some_iff]
  constructor
  · rintro ⟨c, read, same⟩
    have value : c.toNat = n := Nat.eq_of_mul_eq_mul_right (by decide : 0 < second) same
    subst value
    exact ⟨c.toNat_lt, notedSeconds?_eq_some_iff.1 read⟩
  · intro ⟨fits, denotes⟩
    obtain ⟨c, value⟩ := exists_toNat_eq fits
    exact ⟨c, denotes.notedSeconds? value, congrArg ofSeconds value⟩

theorem read?_eq_none_iff {text : String} :
    read? text = none ↔ ∀ n, Denotes (trimChars text.toList) n → UInt64.size ≤ n := by
  constructor
  · intro unread n denotes
    apply Nat.le_of_not_lt
    intro fits
    have read := read?_eq_some_ofSeconds_iff.2 ⟨fits, denotes⟩
    rw [unread] at read
    cases read
  · intro large
    cases read : readSeconds? text with
    | none => rw [read?, read, Option.map_none]
    | some n =>
      obtain ⟨fits, denotes⟩ := read?_eq_some_ofSeconds_iff.1 (congrArg (Option.map ofSeconds) read)
      exact absurd fits (Nat.not_lt.2 (large n denotes))

/-! ## One number for a text -/

theorem Group.spelling_append_inj {group other : Group} {rest more : List Char}
    (same : group.spelling ++ rest = other.spelling ++ more) :
    group.seconds = other.seconds ∧ rest = more := by
  have leading : ∀ (g : Group) (later : List Char),
      (g.spelling ++ later).takeWhile Char.isDigit = g.digits := by
    intro g later
    rw [spelling, List.append_assoc, List.takeWhile_append_of_pos g.written.digits]
    simp [g.isDigit_letter]
  have digits : group.digits = other.digits := by
    rw [← leading group rest, same, leading]
  have functional : ∀ pair ∈ unitLetters, ∀ later ∈ unitLetters,
      pair.1 = later.1 → pair.2 = later.2 := by decide
  simp only [spelling, digits, List.append_assoc, List.append_cancel_left_eq, List.cons_append,
    List.nil_append, List.cons.injEq] at same
  have amount : group.amount = other.amount := by
    rw [← group.written.value, digits, other.written.value]
  have unit : group.unit = other.unit := functional _ group.known _ other.known same.1
  exact ⟨by rw [seconds, seconds, amount, unit], same.2⟩

/-- Groups and the digits after them are found again in their characters. -/
theorem sum_unique {groups others : List Group} {trailing rest : List Char}
    (trailingDigits : ∀ c ∈ trailing, c.isDigit = true) (restDigits : ∀ c ∈ rest, c.isDigit = true)
    (same : groups.flatMap Group.spelling ++ trailing = others.flatMap Group.spelling ++ rest) :
    (groups.map Group.seconds).sum = (others.map Group.seconds).sum ∧ trailing = rest := by
  have noGroup : ∀ (group : Group) (more : List Group) (later : List Char),
      ¬ ∀ c ∈ (group :: more).flatMap Group.spelling ++ later, c.isDigit = true :=
    fun group more later digits => group.not_number (group.letter_mem_flatMap more later)
      fun c member => .inr (digits c member)
  induction groups generalizing others with
  | nil =>
    cases others with
    | nil => exact ⟨rfl, same⟩
    | cons other more =>
      rw [List.flatMap_nil, List.nil_append] at same
      rw [same] at trailingDigits
      exact absurd trailingDigits (noGroup other more rest)
  | cons group groups inductionHypothesis =>
    cases others with
    | nil =>
      rw [List.flatMap_nil, List.nil_append] at same
      rw [← same] at restDigits
      exact absurd restDigits (noGroup group groups trailing)
    | cons other others =>
      rw [List.flatMap_cons, List.flatMap_cons, List.append_assoc, List.append_assoc] at same
      obtain ⟨first, later⟩ := Group.spelling_append_inj same
      obtain ⟨sums, ends⟩ := inductionHypothesis later
      exact ⟨by rw [List.map_cons, List.sum_cons, first, sums, List.map_cons, List.sum_cons], ends⟩

/-- What is denoted comes from the reader of numbers or from groups. -/
theorem Denotes.number_or_groups (denotes : Denotes chars n) :
    (∀ limit, n < limit → unsigned? limit chars = some n) ∨
      ∃ (first : Group) (more : List Group) (trailing : List Char),
        (∀ c ∈ trailing, c.isDigit = true) ∧
          chars = (first :: more).flatMap Group.spelling ++ trailing ∧
            n = ((first :: more).map Group.seconds).sum + Nat.ofDigitChars 10 trailing 0 := by
  cases denotes with
  | number written =>
    exact .inl fun _ small => unsigned?_eq_some_iff.2 ⟨small, .inl written⟩
  | signed written =>
    exact .inl fun _ small => unsigned?_eq_some_iff.2 ⟨small, .inr ⟨_, rfl, written⟩⟩
  | groups first more digits =>
    exact .inr ⟨first, more, _, digits, rfl, rfl⟩

theorem Denotes.unique {m : Nat} (denotes : Denotes chars m) (other : Denotes chars n) : m = n := by
  obtain number | ⟨first, more, trailing, digits, rfl, rfl⟩ := denotes.number_or_groups
  · obtain again | ⟨first, more, trailing, digits, rfl, rfl⟩ := other.number_or_groups
    · have read := number (m + n + 1) (by omega)
      have readAgain := again (m + n + 1) (by omega)
      exact Option.some.inj (read.symm.trans readAgain)
    · have numeral := plus_or_isDigit_of_unsigned? (number (m + 1) m.lt_succ_self)
      exact absurd numeral (first.not_number (first.letter_mem_flatMap more trailing))
  · obtain again | ⟨others, rest, ends, restDigits, same, rfl⟩ := other.number_or_groups
    · have numeral := plus_or_isDigit_of_unsigned? (again (n + 1) n.lt_succ_self)
      exact absurd numeral (first.not_number (first.letter_mem_flatMap more trailing))
    · obtain ⟨sums, trailingSame⟩ := sum_unique digits restDigits same
      rw [sums, trailingSame]

/-- A text is read as `n` seconds exactly if its trimmed characters denote `n` and a word holds `n`, and
every other text is refused.  A text denotes one number at most.  Wherever the reader is among the groups,
its words hold the exact sum, and it only stops where characters are no groups or the sum is too large. -/
theorem durations_read_exactly (text : String) :
    (∀ n, read? text = some (ofSeconds n) ↔
        n < UInt64.size ∧ Denotes (trimChars text.toList) n) ∧
      (read? text = none ↔ ∀ n, Denotes (trimChars text.toList) n → UInt64.size ≤ n) ∧
      (∀ m n, Denotes (trimChars text.toList) m → Denotes (trimChars text.toList) n → m = n) ∧
      ∀ begun state, begun.foldlM Groups.read? {} = some state ↔ Stands begun state :=
  ⟨fun _ => read?_eq_some_ofSeconds_iff, read?_eq_none_iff, fun _ _ => Denotes.unique,
    fun _ _ => foldlM_read?_eq_some_iff⟩

/-- The most hours that a word can hold in seconds. -/
def mostHours : Group where
  digits := "5124095576030431".toList
  amount := 5124095576030431
  letter := 'H'
  unit := 3600
  written := digits?_eq_some_iff.1 rfl
  known := by decide

theorem last_second_of_word_read :
    read? " 5124095576030431H15 " = some (ofSeconds 18446744073709551615) ∧
      read? "5124095576030431H16" = none := by
  have hours : ([mostHours].map Group.seconds).sum = 18446744073709551600 := by decide
  have denoted : ∀ (trailing : List Char) (n : Nat), (∀ c ∈ trailing, c.isDigit = true) →
      18446744073709551600 + Nat.ofDigitChars 10 trailing 0 = n →
        Denotes ("5124095576030431H".toList ++ trailing) n := by
    intro trailing n digits total
    rw [← total, ← hours]
    exact .groups mostHours [] digits
  have fits := denoted ['1', '5'] 18446744073709551615 (by simp) rfl
  have large := denoted ['1', '6'] 18446744073709551616 (by simp) rfl
  constructor
  · exact ((durations_read_exactly " 5124095576030431H15 ").1 _).2 ⟨by decide, fits⟩
  · obtain ⟨-, refused, unique, -⟩ := durations_read_exactly "5124095576030431H16"
    apply refused.2
    intro n denotes
    exact Nat.le_of_eq (unique _ n large denotes)

end DataSync.Duration
