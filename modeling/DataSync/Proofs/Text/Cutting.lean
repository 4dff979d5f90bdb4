import DataSync.Text.Blank
import DataSync.Text.Split

/-!
# Cutting texts

Trimming and splitting undo what a writer put around and between the parts of a text, if the parts
themselves have no blanks at their ends and no separators.
-/

namespace DataSync.Text

variable {c separator : Char} {chars part before after : List Char}

/-! ## Trimming -/

theorem dropWhile_eq_self (starts : ∀ c ∈ chars.head?, isBlank c = false) :
    chars.dropWhile isBlank = chars := by
  cases chars with
  | nil => rfl
  | cons head rest =>
    have unblank := starts head rfl
    simp [unblank]

theorem trimChars_eq_self (starts : ∀ c ∈ chars.head?, isBlank c = false)
    (ends : ∀ c ∈ chars.getLast?, isBlank c = false) : trimChars chars = chars := by
  rw [trimChars, dropWhile_eq_self starts, dropWhile_eq_self (by simpa using ends),
    List.reverse_reverse]

theorem trimChars_cons_blank (blank : isBlank c = true) (chars : List Char) :
    trimChars (c :: chars) = trimChars chars := by
  simp [trimChars, blank]

theorem trimChars_append_blank (blank : isBlank c = true) (chars : List Char) :
    trimChars (chars ++ [c]) = trimChars chars := by
  cases kept : chars.dropWhile isBlank with
  | nil => simp [trimChars, List.dropWhile_append, kept, blank]
  | cons head rest => simp [trimChars, List.dropWhile_append, kept, blank]

/-! ## Splitting -/

theorem splitAt?_append (absent : separator ∉ part) (rest : List Char) :
    splitAt? separator (part ++ separator :: rest) = some (part, rest) := by
  induction part with
  | nil => simp [splitAt?]
  | cons head part inductionHypothesis =>
    simp only [List.mem_cons, not_or] at absent
    simp [splitAt?, Ne.symm absent.1, inductionHypothesis absent.2]

theorem splitAt?_eq_some_iff :
    splitAt? separator chars = some (before, after) ↔
      chars = before ++ separator :: after ∧ separator ∉ before := by
  refine ⟨fun split => ?_, fun ⟨whole, absent⟩ => whole ▸ splitAt?_append absent after⟩
  induction chars generalizing before with
  | nil => cases split
  | cons head rest inductionHypothesis =>
    rw [splitAt?] at split
    split at split
    · rename_i found
      cases split
      exact ⟨by rw [found]; rfl, by simp⟩
    · rename_i other
      obtain ⟨⟨before, after⟩, later, same⟩ := Option.map_eq_some_iff.1 split
      cases same
      obtain ⟨rfl, absent⟩ := inductionHypothesis later
      exact ⟨rfl, by simp [absent, Ne.symm other]⟩

theorem splitAt?_eq_none_iff : splitAt? separator chars = none ↔ separator ∉ chars := by
  induction chars with
  | nil => simp [splitAt?]
  | cons head rest inductionHypothesis =>
    rw [splitAt?]
    split
    · rename_i found
      simp [found]
    · rename_i other
      simp [inductionHypothesis, Ne.symm other]

theorem splitAtLast?_eq_some_iff :
    splitAtLast? separator chars = some (before, after) ↔
      chars = before ++ separator :: after ∧ separator ∉ after := by
  have reversed : splitAtLast? separator chars = some (before, after) ↔
      splitAt? separator chars.reverse = some (after.reverse, before.reverse) := by
    rw [splitAtLast?]
    rcases splitAt? separator chars.reverse with _ | ⟨last, first⟩
    · simp
    · simp [List.reverse_eq_iff, and_comm]
  rw [reversed, splitAt?_eq_some_iff, List.reverse_eq_iff, List.mem_reverse]
  simp

theorem splitAtLast?_append (absent : separator ∉ after) (before : List Char) :
    splitAtLast? separator (before ++ separator :: after) = some (before, after) :=
  splitAtLast?_eq_some_iff.2 ⟨rfl, absent⟩

theorem splitAtLast?_eq_none_iff : splitAtLast? separator chars = none ↔ separator ∉ chars := by
  rw [splitAtLast?, Option.map_eq_none_iff, splitAt?_eq_none_iff, List.mem_reverse]

theorem splitAll_ne_nil (separator : Char) (chars : List Char) : splitAll separator chars ≠ [] := by
  cases chars with
  | nil => simp [splitAll]
  | cons head rest =>
    rw [splitAll]
    split
    · simp
    · split <;> simp

theorem splitAll_append (absent : separator ∉ part) (rest : List Char) :
    splitAll separator (part ++ separator :: rest) = part :: splitAll separator rest := by
  induction part with
  | nil =>
    rw [List.nil_append, splitAll]
    cases parts : splitAll separator rest with
    | nil => exact absurd parts (splitAll_ne_nil separator rest)
    | cons first others => simp
  | cons head part inductionHypothesis =>
    simp only [List.mem_cons, not_or] at absent
    simp [splitAll, Ne.symm absent.1, inductionHypothesis absent.2]

theorem splitAll_eq_splitOn (separator : Char) (chars : List Char) :
    splitAll separator chars = chars.splitOn separator := by
  induction chars with
  | nil => rfl
  | cons head rest inductionHypothesis =>
    rw [List.splitOn_cons_eq_if_modifyHead, ← inductionHypothesis, splitAll]
    cases parts : splitAll separator rest with
    | nil => exact absurd parts (splitAll_ne_nil separator rest)
    | cons first others => simp

/-! ## Joining -/

theorem mem_of_mem_intercalate {parts : List (List Char)}
    (member : c ∈ [separator].intercalate parts) : c = separator ∨ ∃ part ∈ parts, c ∈ part := by
  induction parts with
  | nil => simp at member
  | cons part rest inductionHypothesis =>
    cases rest with
    | nil => exact .inr ⟨part, by simp, by simpa using member⟩
    | cons next rest =>
      rw [List.intercalate_cons_cons] at member
      simp only [List.mem_append, List.mem_singleton] at member
      obtain (inPart | rfl) | later := member
      · exact .inr ⟨part, by simp, inPart⟩
      · exact .inl rfl
      · obtain same | ⟨part, among, inPart⟩ := inductionHypothesis later
        · exact .inl same
        · exact .inr ⟨part, List.mem_cons_of_mem _ among, inPart⟩

theorem map_intercalate {f : Char → Char} (fixed : f separator = separator)
    (parts : List (List Char)) :
    ([separator].intercalate parts).map f = [separator].intercalate (parts.map (List.map f)) := by
  induction parts with
  | nil => simp
  | cons part rest inductionHypothesis =>
    cases rest with
    | nil => simp
    | cons next rest =>
      rw [List.map_cons, List.map_cons, List.intercalate_cons_cons, List.intercalate_cons_cons,
        List.map_append, List.map_append, inductionHypothesis, List.map_singleton, fixed, List.map_cons]

/-! ## Schemes -/

theorem afterScheme?_eq_some_iff {scheme : String} :
    afterScheme? scheme chars = some after ↔
      ∃ head, head.map Char.toLower = scheme.toList ∧ chars = head ++ after := by
  rw [afterScheme?]
  constructor
  · intro found
    split at found
    · rename_i named
      cases found
      exact ⟨_, named, (List.take_append_drop ..).symm⟩
    · cases found
  · rintro ⟨head, named, rfl⟩
    have length : scheme.toList.length = head.length := by rw [← named, List.length_map]
    simp [length, named]

end DataSync.Text
