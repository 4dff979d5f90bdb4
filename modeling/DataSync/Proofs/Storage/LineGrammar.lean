import DataSync.Proofs.Storage.Reopening
import DataSync.Proofs.Text.Numerals
import Mathlib.Data.List.Forall2

/-!
# The grammar of property files

What the lines of a property file say, stated without the reader: a line is blank, a comment, or a key
and a value with an equals sign between them, in which escapes stand for octets.  The reader follows
this grammar line by line, except that it takes a plus sign for the first digit of an escape.
-/

namespace DataSync.PropertyFile

open DataSync.Text

/-! ## The grammar -/

/-- A hexadecimal digit of either case, and its value. -/
def HexDigit (c : Char) (value : Nat) : Prop :=
  value < 16 ∧ (c = Nat.digitChar value ∨ c = (Nat.digitChar value).toUpper)

/-- Two hexadecimal digits, and the octet that they stand for. -/
def TwoDigits (a b : Char) (octet : UInt8) : Prop :=
  HexDigit a (octet.toNat / 16) ∧ HexDigit b (octet.toNat % 16)

/-- Two hexadecimal digits, or a plus sign and one of them. -/
def DigitField (a b : Char) (octet : UInt8) : Prop :=
  TwoDigits a b octet ∨ a = '+' ∧ HexDigit b octet.toNat

variable {pair : Char → Char → UInt8 → Prop}

/-- The octets that the written form of a key or value stands for.  What may follow the mark of an escape
is left open. -/
inductive Decodes (pair : Char → Char → UInt8 → Prop) : List Char → Bytes → Prop where
  | nil : Decodes pair [] []
  | kept {c : Char} {rest : List Char} {octets : Bytes} : c ≠ '!' → Decodes pair rest octets →
      Decodes pair (c :: rest) (String.utf8EncodeChar c ++ octets)
  | escape {a b : Char} {octet : UInt8} {rest : List Char} {octets : Bytes} : pair a b octet →
      Decodes pair rest octets → Decodes pair ('!' :: a :: b :: rest) (octet :: octets)

/-- What a line says, which is nothing or a property. -/
inductive LineMeans (pair : Char → Char → UInt8 → Prop) (line : List Char) :
    Option (String × String) → Prop where
  | blank : trimChars line = [] → LineMeans pair line none
  | comment {rest : List Char} : trimChars line = '#' :: rest → LineMeans pair line none
  | property {before after : List Char} {key value : String} :
      trimChars line = before ++ '=' :: after → '=' ∉ before → before.head? ≠ some '#' →
      Decodes pair (trimChars before) (Bytes.ofText key) →
      Decodes pair (trimChars after) (Bytes.ofText value) →
      LineMeans pair line (some (key, value))

/-- Whether a line says anything at all, if only that it is a comment. -/
def Good (pair : Char → Char → UInt8 → Prop) (line : List Char) : Prop :=
  ∃ said, LineMeans pair line said

/-- The properties in a text: of those that its lines say, the last one for each key. -/
def Means (pair : Char → Char → UInt8 → Prop) (text : String) (properties : Properties) : Prop :=
  ∃ said, List.Forall₂ (LineMeans pair) (splitAll '\n' text.toList) said ∧
    ∀ key, properties.get? key = (said.filterMap id).reverse.lookup key

/-- The number of the first line of a text that says nothing. -/
def FirstOffending (pair : Char → Char → UInt8 → Prop) (text : String) (number : Nat) : Prop :=
  ∃ earlier line later, splitAll '\n' text.toList = earlier ++ line :: later ∧
    number = earlier.length + 1 ∧ (∀ other ∈ earlier, Good pair other) ∧ ¬ Good pair line

/-- The reader takes a text for what it means, and reports the first line that has no meaning. -/
structure Follows (pair : Char → Char → UInt8 → Prop) (text : String) : Prop where
  ok_iff : ∀ properties, parse text = .ok properties ↔ Means pair text properties
  error_iff : ∀ number,
    (∃ problem, parse text = .error (number, problem)) ↔ FirstOffending pair text number

/-- An escape in the key or the value of a line starts with a plus sign. -/
def HasPlus (line : List Char) : Prop :=
  ∃ before after, trimChars line = before ++ '=' :: after ∧ '=' ∉ before ∧ before.head? ≠ some '#' ∧
    (['!', '+'] <:+: trimChars before ∨ ['!', '+'] <:+: trimChars after)

/-! ## Escapes -/

theorem hexDigit?_eq_some_iff {c : Char} {value : Nat} :
    hexDigit? c = some value ↔ HexDigit c value := by
  constructor
  · intro digit
    have small := toNat_lt_of_hexDigit? (Option.isSome_of_mem digit)
    have all : ∀ n < 128, ∀ value ∈ hexDigit? (Char.ofNat n), value < 16 ∧
        (Char.ofNat n = Nat.digitChar value ∨ Char.ofNat n = (Nat.digitChar value).toUpper) := by
      decide
    have found := all c.toNat small value
    rw [Char.ofNat_toNat] at found
    exact found digit
  · rintro ⟨small, written⟩
    have all : ∀ n < 16, hexDigit? (Nat.digitChar n) = some n ∧
        hexDigit? (Nat.digitChar n).toUpper = some n := by decide
    obtain rfl | rfl := written
    · exact (all value small).1
    · exact (all value small).2

theorem not_hexDigit_plus {value : Nat} : ¬ HexDigit '+' value := by
  rw [← hexDigit?_eq_some_iff]
  exact nofun

theorem ofNat_eq_iff {n : Nat} {octet : UInt8} (small : n < 256) :
    UInt8.ofNat n = octet ↔ n = octet.toNat := by
  constructor
  · rintro rfl
    exact (UInt8.toNat_ofNat_of_lt' small).symm
  · rintro rfl
    exact UInt8.ofNat_toNat

theorem octetField?_eq_some_iff {a b : Char} {octet : UInt8} :
    octetField? a b = some octet ↔ DigitField a b octet := by
  have small := octet.toNat_lt
  unfold octetField? DigitField TwoDigits
  simp only [← hexDigit?_eq_some_iff]
  cases second : hexDigit? b with
  | none => simp
  | some low =>
    have lowSmall : low < 16 := (hexDigit?_eq_some_iff.1 second).1
    by_cases plus : a = '+'
    · have notDigit : hexDigit? '+' = none := by decide
      simp only [plus, if_true, notDigit, Option.some.injEq, reduceCtorEq, false_and, true_and, false_or]
      exact ofNat_eq_iff (by omega)
    · cases first : hexDigit? a with
      | none => simp [plus]
      | some high =>
        have highSmall : high < 16 := (hexDigit?_eq_some_iff.1 first).1
        simp only [plus, if_false, Option.map_some, Option.some.injEq, false_and, or_false]
        rw [ofNat_eq_iff (by omega)]
        omega

theorem Decodes.unescapeChars {chars : List Char} {octets : Bytes}
    (decodes : Decodes DigitField chars octets) : unescapeChars chars = some octets := by
  induction decodes with
  | nil => rfl
  | kept unmarked _ inductionHypothesis =>
    rw [unescapeChars_cons unmarked, inductionHypothesis]
    rfl
  | escape field _ inductionHypothesis =>
    simp [PropertyFile.unescapeChars, octetField?_eq_some_iff.2 field, inductionHypothesis]

theorem unescapeChars_eq_some_iff {chars : List Char} {octets : Bytes} :
    unescapeChars chars = some octets ↔ Decodes DigitField chars octets := by
  refine ⟨fun read => ?_, Decodes.unescapeChars⟩
  fun_induction unescapeChars chars generalizing octets with
  | case1 =>
    cases read
    exact .nil
  | case2 a b rest inductionHypothesis =>
    simp only [Option.bind_eq_bind, Option.bind_eq_some_iff, Option.pure_def, Option.some.injEq] at read
    obtain ⟨octet, field, later, decoded, rfl⟩ := read
    exact .escape (octetField?_eq_some_iff.1 field) (inductionHypothesis decoded)
  | case3 => cases read
  | case4 c rest _ unmarked inductionHypothesis =>
    obtain ⟨later, decoded, rfl⟩ := Option.map_eq_some_iff.1 read
    exact .kept unmarked (inductionHypothesis decoded)

theorem unescape_eq_some_iff {chars : List Char} {text : String} :
    unescape chars = some text ↔ Decodes DigitField chars (Bytes.ofText text) := by
  simp [unescape, Option.bind_eq_some_iff, unescapeChars_eq_some_iff, Bytes.text?_eq_some_iff]

theorem Decodes.mono {wider : Char → Char → UInt8 → Prop} {chars : List Char} {octets : Bytes}
    (widens : ∀ {a b octet}, pair a b octet → wider a b octet) (decodes : Decodes pair chars octets) :
    Decodes wider chars octets := by
  induction decodes with
  | nil => exact .nil
  | kept unmarked _ inductionHypothesis => exact .kept unmarked inductionHypothesis
  | escape field _ inductionHypothesis => exact .escape (widens field) inductionHypothesis

/-- No character of an escape is a mark itself. -/
theorem DigitField.unmarked {a b : Char} {octet : UInt8} (field : DigitField a b octet) :
    a ≠ '!' ∧ b ≠ '!' := by
  have notDigit : ∀ {value}, ¬ HexDigit '!' value := by
    intro value digit
    rw [← hexDigit?_eq_some_iff] at digit
    cases digit
  obtain ⟨first, second⟩ | ⟨rfl, second⟩ := field
  · exact ⟨fun same => notDigit (same ▸ first), fun same => notDigit (same ▸ second)⟩
  · exact ⟨by decide, fun same => notDigit (same ▸ second)⟩

/-- A mark that comes after characters that are none comes in what follows them. -/
theorem plus_infix_cons {c : Char} {rest : List Char} (unmarked : c ≠ '!') :
    ['!', '+'] <:+: c :: rest ↔ ['!', '+'] <:+: rest := by
  simp [List.infix_cons_iff, Ne.symm unmarked]

/-- Escapes are of two digits exactly if none starts with a plus sign. -/
theorem decodes_twoDigits_iff {chars : List Char} {octets : Bytes} :
    Decodes TwoDigits chars octets ↔
      Decodes DigitField chars octets ∧ ¬ ['!', '+'] <:+: chars := by
  constructor
  · intro decodes
    refine ⟨decodes.mono .inl, ?_⟩
    induction decodes with
    | nil => simp
    | kept unmarked _ inductionHypothesis => rwa [plus_infix_cons unmarked]
    | @escape a b octet rest octets field _ inductionHypothesis =>
      obtain ⟨first, second⟩ := DigitField.unmarked (.inl field)
      have notPlus : '+' ≠ a := by
        rintro rfl
        exact not_hexDigit_plus field.1
      rw [List.infix_cons_iff, plus_infix_cons first, plus_infix_cons second]
      simpa [notPlus] using inductionHypothesis
  · rintro ⟨decodes, unplussed⟩
    induction decodes with
    | nil => exact .nil
    | kept unmarked _ inductionHypothesis =>
      rw [plus_infix_cons unmarked] at unplussed
      exact .kept unmarked (inductionHypothesis unplussed)
    | escape field _ inductionHypothesis =>
      obtain ⟨first, second⟩ := field.unmarked
      rw [List.infix_cons_iff, plus_infix_cons first, plus_infix_cons second, not_or] at unplussed
      obtain digits | ⟨rfl, -⟩ := field
      · exact .escape digits (inductionHypothesis unplussed.2)
      · simp at unplussed

/-! ## Lines -/

/-- A line is a comment exactly if that can be seen in front of its equals sign. -/
theorem uncommented_iff {line before after : List Char}
    (trimmed : trimChars line = before ++ '=' :: after) :
    before.head? ≠ some '#' ↔ ∀ rest, trimChars line ≠ '#' :: rest := by
  rw [trimmed]
  cases before <;> simp

theorem readLine_eq_ok_iff {line : List Char} {said : Option (String × String)} :
    readLine line = .ok said ↔ LineMeans DigitField line said := by
  constructor
  · intro read
    unfold readLine at read
    split at read
    · rename_i trimmed
      cases read
      exact .blank trimmed
    · rename_i trimmed
      cases read
      exact .comment trimmed
    · rename_i uncommented
      split at read
      · cases read
      · rename_i before after cut
        obtain ⟨trimmed, absent⟩ := splitAt?_eq_some_iff.1 cut
        split at read
        · cases read
        · rename_i key decodedKey
          split at read
          · cases read
          · rename_i value decodedValue
            cases read
            exact .property trimmed absent ((uncommented_iff trimmed).2 uncommented)
              (unescape_eq_some_iff.1 decodedKey) (unescape_eq_some_iff.1 decodedValue)
  · intro meant
    cases meant with
    | blank trimmed => simp [readLine, trimmed]
    | comment trimmed => simp [readLine, trimmed]
    | @property before after key value trimmed absent uncommented keyMeant valueMeant =>
      have decodedKey := unescape_eq_some_iff.2 keyMeant
      have decodedValue := unescape_eq_some_iff.2 valueMeant
      have cut : splitAt? '=' (before ++ '=' :: after) = some (before, after) :=
        splitAt?_append absent after
      rw [readLine, trimmed]
      split
      · rename_i nothing
        simp at nothing
      · rename_i comment
        exact absurd (trimmed.trans comment) ((uncommented_iff trimmed).1 uncommented _)
      · simp only [cut, decodedKey, decodedValue]

theorem good_iff {line : List Char} : Good DigitField line ↔ ∃ said, readLine line = .ok said := by
  simp only [Good, readLine_eq_ok_iff]

theorem not_good_iff {line : List Char} :
    ¬ Good DigitField line ↔ ∃ problem, readLine line = .error problem := by
  rw [good_iff]
  cases readLine line <;> simp

/-- A line with its equals sign is cut there in one way only. -/
theorem cut_unique {before after before' after' : List Char}
    (same : before ++ '=' :: after = before' ++ '=' :: after') (absent : '=' ∉ before)
    (absent' : '=' ∉ before') : before = before' ∧ after = after' := by
  have first := splitAt?_append absent after
  rw [same, splitAt?_append absent' after'] at first
  cases first
  exact ⟨rfl, rfl⟩

/-- A line follows the grammar of two digits exactly if the reader takes it and it has no plus sign for
a digit. -/
theorem lineMeans_twoDigits_iff {line : List Char} {said : Option (String × String)} :
    LineMeans TwoDigits line said ↔ LineMeans DigitField line said ∧ ¬ HasPlus line := by
  constructor
  · intro meant
    cases meant with
    | blank trimmed =>
      refine ⟨.blank trimmed, ?_⟩
      rintro ⟨before, after, trimmed', -⟩
      simp [trimmed] at trimmed'
    | comment trimmed =>
      refine ⟨.comment trimmed, ?_⟩
      rintro ⟨before, after, trimmed', -, uncommented, -⟩
      exact (uncommented_iff trimmed').1 uncommented _ trimmed
    | property trimmed absent uncommented keyMeant valueMeant =>
      obtain ⟨keyReads, keyUnplussed⟩ := decodes_twoDigits_iff.1 keyMeant
      obtain ⟨valueReads, valueUnplussed⟩ := decodes_twoDigits_iff.1 valueMeant
      refine ⟨.property trimmed absent uncommented keyReads valueReads, ?_⟩
      rintro ⟨before', after', trimmed', absent', -, plus⟩
      obtain ⟨rfl, rfl⟩ := cut_unique (trimmed.symm.trans trimmed') absent absent'
      exact plus.elim keyUnplussed valueUnplussed
  · rintro ⟨meant, unplussed⟩
    cases meant with
    | blank trimmed => exact .blank trimmed
    | comment trimmed => exact .comment trimmed
    | @property before after key value trimmed absent uncommented keyMeant valueMeant =>
      have plain : ∀ part, part = trimChars before ∨ part = trimChars after →
          ¬ ['!', '+'] <:+: part := by
        rintro part (rfl | rfl) plus
        · exact unplussed ⟨before, after, trimmed, absent, uncommented, .inl plus⟩
        · exact unplussed ⟨before, after, trimmed, absent, uncommented, .inr plus⟩
      exact .property trimmed absent uncommented
        (decodes_twoDigits_iff.2 ⟨keyMeant, plain _ (.inl rfl)⟩)
        (decodes_twoDigits_iff.2 ⟨valueMeant, plain _ (.inr rfl)⟩)

theorem good_twoDigits_iff {line : List Char} :
    Good TwoDigits line ↔ Good DigitField line ∧ ¬ HasPlus line := by
  simp [Good, lineMeans_twoDigits_iff]

/-! ## Texts -/

theorem readLines_eq_ok_iff {lines : List (List Char)} {number : Nat} {start properties : Properties} :
    readLines number start lines = .ok properties ↔
      ∃ said, List.Forall₂ (LineMeans DigitField) lines said ∧
        properties = (said.filterMap id).foldl (fun table entry => table.insert entry.1 entry.2) start := by
  induction lines generalizing number start with
  | nil => simp [readLines, eq_comm]
  | cons line rest inductionHypothesis =>
    rw [readLines]
    constructor
    · intro read
      split at read
      · cases read
      · rename_i meant
        obtain ⟨said, later, rfl⟩ := inductionHypothesis.1 read
        exact ⟨none :: said, .cons (readLine_eq_ok_iff.1 meant) later, rfl⟩
      · rename_i key value meant
        obtain ⟨said, later, rfl⟩ := inductionHypothesis.1 read
        exact ⟨some (key, value) :: said, .cons (readLine_eq_ok_iff.1 meant) later, rfl⟩
    · rintro ⟨said, all, rfl⟩
      cases all with
      | @cons _ first _ said meant later =>
        rw [readLine_eq_ok_iff.2 meant]
        cases first <;> exact inductionHypothesis.2 ⟨said, later, rfl⟩

theorem readLines_eq_error_iff {lines : List (List Char)} {number found : Nat} {start : Properties}
    {problem : Problem} :
    readLines number start lines = .error (found, problem) ↔
      ∃ earlier line later, lines = earlier ++ line :: later ∧ found = number + earlier.length ∧
        (∀ other ∈ earlier, Good DigitField other) ∧ readLine line = .error problem := by
  induction lines generalizing number start with
  | nil => simp [readLines]
  | cons line rest inductionHypothesis =>
    rw [readLines]
    constructor
    · intro read
      split at read
      · rename_i meant
        cases read
        exact ⟨[], line, rest, rfl, rfl, by simp, meant⟩
      all_goals
        rename_i meant
        obtain ⟨earlier, other, later, rfl, rfl, good, offends⟩ := inductionHypothesis.1 read
        refine ⟨line :: earlier, other, later, rfl, by simp; omega, ?_, offends⟩
        exact List.forall_mem_cons.2 ⟨good_iff.2 ⟨_, meant⟩, good⟩
    · rintro ⟨earlier, other, later, whole, rfl, good, offends⟩
      cases earlier with
      | nil =>
        cases whole
        rw [offends]
        rfl
      | cons first earlier =>
        cases whole
        obtain ⟨lineGood, good⟩ := List.forall_mem_cons.1 good
        obtain ⟨said, meant⟩ := good_iff.1 lineGood
        have further : ∀ start, readLines (number + 1) start (earlier ++ other :: later) =
            .error (number + (line :: earlier).length, problem) := fun start =>
          inductionHypothesis.2 ⟨earlier, other, later, rfl, by simp; omega, good, offends⟩
        rw [meant]
        cases said <;> exact further _

theorem follows_digitField (text : String) : Follows DigitField text where
  ok_iff properties := by
    rw [parse, readLines_eq_ok_iff, Means]
    constructor
    · rintro ⟨said, meant, rfl⟩
      exact ⟨said, meant, Table.get?_ofList _⟩
    · rintro ⟨said, meant, values⟩
      refine ⟨said, meant, Table.ext_get? fun key => ?_⟩
      exact (values key).trans (Table.get?_ofList _ key).symm
  error_iff number := by
    simp only [parse, readLines_eq_error_iff, FirstOffending, not_good_iff]
    constructor
    · rintro ⟨problem, earlier, line, later, whole, rfl, good, offends⟩
      exact ⟨earlier, line, later, whole, Nat.add_comm .., good, problem, offends⟩
    · rintro ⟨earlier, line, later, whole, rfl, good, problem, offends⟩
      exact ⟨problem, earlier, line, later, whole, Nat.add_comm .., good, offends⟩

/-- Some line of bad ones is the first. -/
theorem exists_first {P : List Char → Prop} {lines : List (List Char)} {line : List Char}
    (member : line ∈ lines) (bad : ¬ P line) :
    ∃ earlier first later, lines = earlier ++ first :: later ∧ (∀ other ∈ earlier, P other) ∧
      ¬ P first := by
  induction lines with
  | nil => cases member
  | cons head rest inductionHypothesis =>
    by_cases good : P head
    · have later : line ∈ rest := (List.mem_cons.1 member).resolve_left fun same => bad (same ▸ good)
      obtain ⟨earlier, first, others, rfl, goods, offends⟩ := inductionHypothesis later
      exact ⟨head :: earlier, first, others, rfl, List.forall_mem_cons.2 ⟨good, goods⟩, offends⟩
    · exact ⟨[], head, rest, rfl, by simp, good⟩

/-- The lines that the reader takes before the first one that it does not take have no plus sign for a
digit. -/
def Unplussed (text : String) : Prop :=
  ∀ taken, taken <+: splitAll '\n' text.toList → (∀ line ∈ taken, Good DigitField line) →
    ∀ line ∈ taken, ¬ HasPlus line

theorem good_of_forall₂ {lines : List (List Char)} {said : List (Option (String × String))}
    (meant : List.Forall₂ (LineMeans pair) lines said) : ∀ line ∈ lines, Good pair line := by
  induction meant with
  | nil => simp
  | cons meant _ inductionHypothesis =>
    exact List.forall_mem_cons.2 ⟨⟨_, meant⟩, inductionHypothesis⟩

theorem means_twoDigits_iff {text : String} {properties : Properties} :
    Means TwoDigits text properties ↔
      Means DigitField text properties ∧ ∀ line ∈ splitAll '\n' text.toList, ¬ HasPlus line := by
  have both : LineMeans TwoDigits = fun line said => ¬ HasPlus line ∧ LineMeans DigitField line said := by
    funext line said
    exact propext (lineMeans_twoDigits_iff.trans and_comm)
  simp only [Means, both, List.forall₂_and_left]
  constructor
  · rintro ⟨said, ⟨unplussed, meant⟩, values⟩
    exact ⟨⟨said, meant, values⟩, unplussed⟩
  · rintro ⟨⟨said, meant, values⟩, unplussed⟩
    exact ⟨said, ⟨unplussed, meant⟩, values⟩

theorem Unplussed.follows {text : String} (unplussed : Unplussed text) : Follows TwoDigits text where
  ok_iff properties := by
    rw [(follows_digitField text).ok_iff, means_twoDigits_iff]
    refine ⟨fun meant => ⟨meant, ?_⟩, And.left⟩
    obtain ⟨said, meant, -⟩ := meant
    exact unplussed _ (List.prefix_refl _) (good_of_forall₂ meant)
  error_iff number := by
    rw [(follows_digitField text).error_iff]
    constructor
    · rintro ⟨earlier, line, later, whole, rfl, good, offends⟩
      refine ⟨earlier, line, later, whole, rfl, fun other member => ?_, fun strict => ?_⟩
      · have plain := unplussed earlier (whole ▸ List.prefix_append _ _) good other member
        exact good_twoDigits_iff.2 ⟨good other member, plain⟩
      · exact offends (good_twoDigits_iff.1 strict).1
    · rintro ⟨earlier, line, later, whole, rfl, strict, offends⟩
      have good : ∀ other ∈ earlier, Good DigitField other := fun other member =>
        (good_twoDigits_iff.1 (strict other member)).1
      refine ⟨earlier, line, later, whole, rfl, good, fun lineGood => offends ?_⟩
      -- The line and those before it are taken, so that none of them has a plus sign.
      have goods : ∀ other ∈ earlier ++ [line], Good DigitField other :=
        List.forall_mem_append.2 ⟨good, List.forall_mem_singleton.2 lineGood⟩
      have before : earlier ++ [line] <+: splitAll '\n' text.toList := ⟨later, by rw [whole]; simp⟩
      exact good_twoDigits_iff.2 ⟨lineGood, unplussed _ before goods line (by simp)⟩

/-- Where the reader follows the grammar of two digits, it took no plus sign. -/
theorem Follows.unplussed {text : String} (follows : Follows TwoDigits text) : Unplussed text := by
  rintro taken ⟨others, whole⟩ good line member plus
  -- The first line that the grammar forbids is one that the reader took.
  obtain ⟨earlier, offending, later, rfl, strict, offends⟩ :=
    exists_first (P := Good TwoDigits) member fun strict => (good_twoDigits_iff.1 strict).2 plus
  have reported : FirstOffending TwoDigits text (earlier.length + 1) :=
    ⟨earlier, offending, later ++ others, by rw [← whole]; simp, rfl, strict, offends⟩
  rw [← follows.error_iff, (follows_digitField text).error_iff] at reported
  obtain ⟨earlier', offending', later', whole', number, -, offends'⟩ := reported
  have same : offending' = offending := by
    rw [← whole, List.append_assoc, List.cons_append] at whole'
    obtain ⟨-, rest⟩ := List.append_inj whole' (by omega)
    exact (List.cons.inj rest).1.symm
  exact offends' (same ▸ good offending (by simp))

/-- The reader follows the grammar of its lines, where an escape is two hexadecimal digits or a plus sign
and one of them: it gives what a text means, and otherwise the number of the first line that says
nothing.  It follows the grammar with two digits exactly if it took no plus sign.  A node whose file
holds the text is opened with what it means, or is found to be corrupted in that line. -/
theorem parse_follows_grammar (text : String) :
    Follows DigitField text ∧ (Follows TwoDigits text ↔ Unplussed text) ∧
    ∀ (path : FilePath) (disk : Disk) (file : File), disk.file path = .ok file →
      file.content = Bytes.ofText text →
      (∀ properties, FileNode.load path disk = .ok (properties, true) ↔
        Means DigitField text properties) ∧
      ∀ number, (∃ message, FileNode.load path disk = .error (.corrupted path.text number message)) ↔
        FirstOffending DigitField text number := by
  have follows := follows_digitField text
  refine ⟨follows, ⟨Follows.unplussed, Unplussed.follows⟩, fun path disk file there content => ?_⟩
  simp only [← follows.ok_iff, ← follows.error_iff]
  rcases parsed : parse text with ⟨line, problem⟩ | properties
  · have loads : FileNode.load path disk =
        .error (.corrupted path.text line problem.message) := by
      simp [FileNode.load, there, content, parsed]
    simp [loads, eq_comm]
  · have loads : FileNode.load path disk = .ok (properties, true) := by
      simp [FileNode.load, there, content, parsed]
    simp [loads]

def nodePath : FilePath :=
  ⟨"node", "properties"⟩

/-- A file that holds a text. -/
def fileOf (text : String) : File :=
  { content := Bytes.ofText text, modified := 0 }

/-- A disk with a node whose file holds a text. -/
def nodeDisk (text : String) : Disk :=
  { folders := .ofList [(nodePath.folder, .ofList [(nodePath.name, .file (fileOf text))])] }

/-- Escapes are of either case, the later of two lines with one key counts, and a line without an equals
sign is found. -/
theorem nodes_loaded_by_grammar :
    Means DigitField "# escaped\n!61 = b\na = !2B" (.ofList [("a", "+")]) ∧
    FirstOffending DigitField "a = b\na" 2 := by
  obtain ⟨-, -, loads⟩ := parse_follows_grammar "# escaped\n!61 = b\na = !2B"
  obtain ⟨-, -, fails⟩ := parse_follows_grammar "a = b\na"
  constructor
  · refine ((loads nodePath (nodeDisk "# escaped\n!61 = b\na = !2B") _ rfl rfl).1 _).1 ?_
    decide +kernel
  · refine ((fails nodePath (nodeDisk "a = b\na") _ rfl rfl).2 2).1 ⟨Problem.missingEquals.message, ?_⟩
    decide +kernel

/-- A plus sign passes for the first digit of an escape. -/
theorem plus_sign_taken_for_digit :
    parse "a = !+1" = .ok (.ofList [("a", "\x01")]) ∧ FirstOffending TwoDigits "a = !+1" 1 ∧
      ¬ Follows TwoDigits "a = !+1" := by
  have taken : parse "a = !+1" = .ok (.ofList [("a", "\x01")]) := by decide +kernel
  have plus : HasPlus "a = !+1".toList :=
    ⟨['a', ' '], [' ', '!', '+', '1'], by decide, by decide, by decide, .inr ⟨[], ['1'], by decide⟩⟩
  have offending : FirstOffending TwoDigits "a = !+1" 1 :=
    ⟨[], "a = !+1".toList, [], by decide, rfl, by simp, fun strict => (good_twoDigits_iff.1 strict).2 plus⟩
  refine ⟨taken, offending, fun follows => ?_⟩
  obtain ⟨problem, reported⟩ := (follows.error_iff 1).2 offending
  rw [taken] at reported
  cases reported

end DataSync.PropertyFile
