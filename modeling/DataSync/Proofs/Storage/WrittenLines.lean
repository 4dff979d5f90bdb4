import DataSync.Proofs.Storage.EscapedText
import DataSync.Proofs.Text.Cutting

/-!
# Written lines

A property file is read as the table that was written into it: each line gives back its property, and
the lines follow each other without blending.
-/

namespace DataSync.PropertyFile

open DataSync.Text

theorem blank_space : isBlank ' ' = true := by decide

theorem unblank_equals : isBlank '=' = false := by decide

variable {key value : List Char}

/-! ## One line -/

theorem starts_append_equals {before : List Char}
    (starts : ∀ c ∈ before.head?, isBlank c = false) (after : List Char) :
    ∀ c ∈ (before ++ '=' :: after).head?, isBlank c = false := by
  intro c member
  cases before with
  | nil =>
    cases member
    exact unblank_equals
  | cons head rest => exact starts c member

/-- What trimming leaves behind the equals sign of a line. -/
theorem exists_trimmed_value (field : Field false value) :
    ∃ after, trimChars after = value ∧ ∀ before : List Char,
      (∀ c ∈ before.head?, isBlank c = false) →
        trimChars (before ++ '=' :: ' ' :: value) = before ++ '=' :: after := by
  cases value with
  | nil =>
    -- The blank behind the equals sign ends the line and goes with it.
    refine ⟨[], rfl, fun before starts => ?_⟩
    have split : before ++ '=' :: ' ' :: [] = (before ++ ['=']) ++ [' '] := by simp
    rw [split, trimChars_append_blank blank_space]
    exact trimChars_eq_self (starts_append_equals starts []) (by simp [unblank_equals])
  | cons head rest =>
    -- The blank stays until the value is trimmed on its own.
    have trimmed : trimChars (head :: rest) = head :: rest :=
      trimChars_eq_self (fun c member => (field.starts c member).1) field.ends
    refine ⟨' ' :: head :: rest, ?_, fun before starts => ?_⟩
    · rw [trimChars_cons_blank blank_space, trimmed]
    · refine trimChars_eq_self (starts_append_equals starts _) fun c member => field.ends c ?_
      simpa [List.getLast?_append, List.getLast?_cons] using member

/-- What trimming leaves of a line splits at its equals sign into parts from which trimming leaves the
key and the value. -/
theorem exists_trimmed_line (keyField : Field true key) (valueField : Field false value) :
    ∃ before after, trimChars (key ++ [' ', '=', ' '] ++ value) = before ++ '=' :: after ∧
      '=' ∉ before ∧ (∀ c ∈ before.head?, c ≠ '#') ∧
      trimChars before = key ∧ trimChars after = value := by
  obtain ⟨after, trimmedValue, trimmed⟩ := exists_trimmed_value valueField
  cases key with
  | nil =>
    -- Without a key the line starts with the blank in front of the equals sign.
    refine ⟨[], after, ?_, by simp, by simp, rfl, trimmedValue⟩
    exact (trimChars_cons_blank blank_space _).trans (trimmed [] (by simp))
  | cons head rest =>
    have unblank : isBlank head = false := (keyField.starts head rfl).1
    refine ⟨head :: rest ++ [' '], after, ?_, ?_, ?_, ?_, trimmedValue⟩
    · simpa using trimmed (head :: rest ++ [' ']) (by simp [unblank])
    · simpa using keyField.separable rfl
    · intro c member
      exact (keyField.starts c member).2
    · rw [trimChars_append_blank blank_space]
      exact trimChars_eq_self (fun c member => (keyField.starts c member).1) keyField.ends

/-- The line of a property, without the line break. -/
def lineOf (entry : String × String) : List Char :=
  escapeChars true true entry.1.toList ++ [' ', '=', ' '] ++ escapeChars false true entry.2.toList

theorem renderEntry_eq (entry : String × String) : renderEntry entry = lineOf entry ++ ['\n'] := by
  simp [renderEntry, lineOf]

theorem unbroken_lineOf (entry : String × String) : '\n' ∉ lineOf entry := by
  have key := (field_escapeChars true entry.1.toList).unbroken
  have value := (field_escapeChars false entry.2.toList).unbroken
  simp [lineOf, key, value]

theorem readLine_lineOf (entry : String × String) : readLine (lineOf entry) = .ok (some entry) := by
  obtain ⟨before, after, trimmed, separable, uncommented, trimmedKey, trimmedValue⟩ :=
    exists_trimmed_line (field_escapeChars true entry.1.toList)
      (field_escapeChars false entry.2.toList)
  rw [readLine, lineOf, trimmed]
  -- The line is neither empty nor a comment.
  split
  · rename_i nothing
    simp at nothing
  · rename_i comment
    cases before with
    | nil => cases comment
    | cons head rest =>
      cases comment
      exact absurd rfl (uncommented '#' rfl)
  · simp only [splitAt?_append separable, trimmedKey, trimmedValue, unescape_escapeChars]

/-! ## All lines -/

theorem splitAll_renderEntry (entry : String × String) (rest : List Char) :
    splitAll '\n' (renderEntry entry ++ rest) = lineOf entry :: splitAll '\n' rest := by
  rw [renderEntry_eq, List.append_assoc]
  exact splitAll_append (unbroken_lineOf entry) rest

theorem readLines_render (entries : List (String × String)) (number : Nat)
    (properties : Properties) :
    readLines number properties (splitAll '\n' (entries.flatMap renderEntry)) =
      .ok (entries.foldl (fun table entry => table.insert entry.1 entry.2) properties) := by
  induction entries generalizing number properties with
  | nil => rfl
  | cons entry rest inductionHypothesis =>
    rw [List.flatMap_cons, splitAll_renderEntry, readLines, readLine_lineOf]
    exact inductionHypothesis (number + 1) (properties.insert entry.1 entry.2)

/-- A property file is read as the table that was written into it. -/
theorem parse_render (properties : Properties) : parse (render properties) = .ok properties := by
  rw [parse, render, String.toList_ofList, readLines_render]
  exact congrArg Except.ok properties.ofList_entries

end DataSync.PropertyFile
