import DataSync.Storage.PropertyFile

/-!
# Escaped texts

The written form of a key or value in a property file.  It has no line break, neither starts nor ends
with a blank, does not look like a comment, and that of a key has no equals sign; so it can be cut out
of its line again.  Undoing the escapes gives back the text, whichever characters it has.
-/

namespace DataSync.PropertyFile

open DataSync.Text

/-! ## Marks of escapes -/

/-- The character means nothing special in a line, wherever it stands. -/
structure Plain (c : Char) : Prop where
  not_blank : isBlank c = false
  not_equals : c ≠ '='
  not_comment : c ≠ '#'

theorem Plain.not_break {c : Char} (plain : Plain c) : c ≠ '\n' := by
  rintro rfl
  have blank : isBlank '\n' = true := by decide
  rw [plain.not_blank] at blank
  cases blank

theorem plain_digitChar {n : Nat} (digit : n < 16) : Plain (Nat.digitChar n) := by
  have all : ∀ n < 16, isBlank (Nat.digitChar n) = false ∧ Nat.digitChar n ≠ '=' ∧
      Nat.digitChar n ≠ '#' := by decide
  obtain ⟨notBlank, notEquals, notComment⟩ := all n digit
  exact ⟨notBlank, notEquals, notComment⟩

theorem plain_of_mem_escaped {mark c : Char} (member : mark ∈ escaped c) : Plain mark := by
  obtain ⟨b, -, written⟩ := List.mem_flatMap.1 member
  have small := b.toNat_lt
  simp only [hexOctet, List.mem_cons, List.not_mem_nil, or_false] at written
  obtain rfl | rfl | rfl := written
  · exact ⟨by decide, by decide, by decide⟩
  · exact plain_digitChar (by omega)
  · exact plain_digitChar (by omega)

theorem head?_escaped (c : Char) : (escaped c).head? = some '!' := by
  cases octets : String.utf8EncodeChar c with
  | nil => exact absurd octets (String.utf8EncodeChar_ne_nil)
  | cons b rest => simp [escaped, octets]

/-! ## Undoing escapes -/

theorem hexDigit?_digitChar {n : Nat} (digit : n < 16) : hexDigit? (Nat.digitChar n) = some n := by
  have all : ∀ n < 16, hexDigit? (Nat.digitChar n) = some n := by decide
  exact all n digit

theorem digitChar_ne_plus {n : Nat} (digit : n < 16) : Nat.digitChar n ≠ '+' := by
  have all : ∀ n < 16, Nat.digitChar n ≠ '+' := by decide
  exact all n digit

theorem unescapeChars_hexOctet (b : UInt8) (rest : List Char) :
    unescapeChars ('!' :: (hexOctet b ++ rest)) = (unescapeChars rest).map (b :: ·) := by
  have small := b.toNat_lt
  have high : b.toNat / 16 < 16 := by omega
  have low : b.toNat % 16 < 16 := by omega
  have octet : octetField? (Nat.digitChar (b.toNat / 16)) (Nat.digitChar (b.toNat % 16)) =
      some b := by
    have value : b.toNat / 16 * 16 + b.toNat % 16 = b.toNat := by omega
    simp only [octetField?, hexDigit?_digitChar high, hexDigit?_digitChar low,
      digitChar_ne_plus high, if_false, Option.map_some, value, UInt8.ofNat_toNat]
  simp only [hexOctet, List.cons_append, List.nil_append, unescapeChars, octet]
  cases unescapeChars rest <;> rfl

theorem unescapeChars_escaped (c : Char) (rest : List Char) :
    unescapeChars (escaped c ++ rest) =
      (unescapeChars rest).map (String.utf8EncodeChar c ++ ·) := by
  unfold escaped
  induction String.utf8EncodeChar c with
  | nil => simp
  | cons b octets inductionHypothesis =>
    rw [List.flatMap_cons, List.cons_append, List.cons_append, List.append_assoc,
      unescapeChars_hexOctet, inductionHypothesis]
    cases unescapeChars rest <;> rfl

theorem unescapeChars_cons {c : Char} (unmarked : c ≠ '!') (rest : List Char) :
    unescapeChars (c :: rest) = (unescapeChars rest).map (String.utf8EncodeChar c ++ ·) := by
  -- The equation for a single character does not apply by itself, because the reader looks for an
  -- escape of three characters first.
  rw [unescapeChars.eq_def]
  split
  · rename_i nothing
    cases nothing
  · rename_i first _ same
    cases same
    exact absurd rfl unmarked
  · rename_i same
    cases same
    rw [if_neg unmarked]

/-- Undoing the escapes gives the octets of the characters that were written. -/
theorem unescapeChars_escapeChars (inKey first : Bool) (chars : List Char) :
    unescapeChars (escapeChars inKey first chars) =
      some (chars.flatMap String.utf8EncodeChar) := by
  induction chars generalizing first with
  | nil => rfl
  | cons c rest inductionHypothesis =>
    rw [escapeChars]
    split
    · rw [unescapeChars_escaped, inductionHypothesis]
      rfl
    · rename_i keeps
      have unmarked : c ≠ '!' := by
        rintro rfl
        exact keeps rfl
      rw [List.singleton_append, unescapeChars_cons unmarked, inductionHypothesis]
      rfl

theorem unescape_escapeChars (inKey first : Bool) (text : String) :
    unescape (escapeChars inKey first text.toList) = some text := by
  rw [unescape, unescapeChars_escapeChars, ← Bytes.ofText_ofList, String.ofList_toList]
  exact Bytes.text?_ofText text

/-! ## Fields -/

/-- Characters that can be cut out of a line again, in which they stand as a key or as a value. -/
structure Field (inKey : Bool) (chars : List Char) : Prop where
  unbroken : '\n' ∉ chars
  starts : ∀ c ∈ chars.head?, isBlank c = false ∧ c ≠ '#'
  ends : ∀ c ∈ chars.getLast?, isBlank c = false
  separable : inKey = true → '=' ∉ chars

variable {inKey first last : Bool} {c : Char} {chars : List Char}

theorem unspecial_of_kept (keeps : needsEscape inKey first last c = false) :
    c ≠ '\n' ∧ (inKey = true → c ≠ '=') ∧ (first = true → c ≠ '#') ∧
      (first = true ∨ last = true → isBlank c = false) := by
  have blankBreak : isBlank '\n' = true := by decide
  have unblankEquals : isBlank '=' = false := by decide
  have unblankComment : isBlank '#' = false := by decide
  grind [needsEscape]

/-- A character of the written form is a mark of an escape or was kept. -/
theorem mem_escapeChars (member : c ∈ escapeChars inKey first chars) :
    Plain c ∨ ∃ first last, needsEscape inKey first last c = false := by
  induction chars generalizing first with
  | nil => cases member
  | cons head rest inductionHypothesis =>
    rw [escapeChars, List.mem_append] at member
    obtain here | later := member
    · split at here
      · exact .inl (plain_of_mem_escaped here)
      · rename_i keeps
        rw [List.mem_singleton.1 here]
        exact .inr ⟨_, _, eq_false_of_ne_true keeps⟩
    · exact inductionHypothesis later

theorem starts_escapeChars :
    ∀ c ∈ (escapeChars inKey true chars).head?, isBlank c = false ∧ c ≠ '#' := by
  intro c member
  cases chars with
  | nil => cases member
  | cons head rest =>
    rw [escapeChars] at member
    split at member
    · rw [List.head?_append, head?_escaped] at member
      cases member
      exact ⟨by decide, by decide⟩
    · rename_i keeps
      cases member
      obtain ⟨-, -, notComment, notBlank⟩ := unspecial_of_kept (eq_false_of_ne_true keeps)
      exact ⟨notBlank (.inl rfl), notComment rfl⟩

theorem escapeChars_eq_nil : escapeChars inKey first chars = [] ↔ chars = [] := by
  cases chars with
  | nil => simp [escapeChars]
  | cons head rest =>
    have written : escaped head ≠ [] := fun nothing => by
      have marked := head?_escaped head
      rw [nothing] at marked
      cases marked
    rw [escapeChars]
    split <;> simp [written]

theorem ends_escapeChars : ∀ c ∈ (escapeChars inKey first chars).getLast?, isBlank c = false := by
  intro c member
  induction chars generalizing first with
  | nil => cases member
  | cons head rest inductionHypothesis =>
    rw [escapeChars, List.getLast?_append] at member
    cases after : (escapeChars inKey false rest).getLast? with
    | some other =>
      rw [after] at member
      exact inductionHypothesis (after.trans member)
    | none =>
      -- Nothing comes after the head, which is therefore written as the last character.
      rw [after, Option.none_or] at member
      split at member
      · exact (plain_of_mem_escaped (List.mem_of_getLast? member)).not_blank
      · rename_i keeps
        cases member
        have isLast : rest.isEmpty = true := by
          simpa [escapeChars_eq_nil] using List.getLast?_eq_none_iff.1 after
        exact (unspecial_of_kept (eq_false_of_ne_true keeps)).2.2.2 (.inr isLast)

theorem field_escapeChars (inKey : Bool) (chars : List Char) :
    Field inKey (escapeChars inKey true chars) where
  unbroken member := by
    obtain plain | ⟨_, _, keeps⟩ := mem_escapeChars member
    · exact plain.not_break rfl
    · exact (unspecial_of_kept keeps).1 rfl
  starts := starts_escapeChars
  ends := ends_escapeChars
  separable isKey member := by
    obtain plain | ⟨_, _, keeps⟩ := mem_escapeChars member
    · exact plain.not_equals rfl
    · exact (unspecial_of_kept keeps).2.1 isKey rfl

end DataSync.PropertyFile
