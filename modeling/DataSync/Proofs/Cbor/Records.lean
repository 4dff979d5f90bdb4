import DataSync.Cbor.Record
import DataSync.Proofs.Cbor.RoundTrip
import Mathlib.Data.List.Nodup
import Mathlib.Data.Option.Basic

/-!
# Reading written records

A record is found again in the map that it was made into, and the kind of a message in front of its
content.
-/

namespace DataSync.Cbor

/-- Names under which a record can be read. -/
structure Named (names : List String) : Prop where
  short : ∀ name ∈ names, name.utf8ByteSize ≤ nameLimit
  distinct : names.Nodup

instance (names : List String) : Decidable (Named names) :=
  decidable_of_iff ((∀ name ∈ names, name.utf8ByteSize ≤ nameLimit) ∧ names.Nodup)
    ⟨fun ⟨short, distinct⟩ => ⟨short, distinct⟩, fun named => ⟨named.short, named.distinct⟩⟩

namespace Value

theorem mapM_entries {fields : List (String × Value)}
    (short : ∀ name ∈ fields.map (·.1), name.utf8ByteSize ≤ nameLimit) :
    ((fields.map fun (name, value) => (Value.text true name, value)).mapM
      fun (key, value) => return (← key.name?, value)) = some fields := by
  induction fields with
  | nil => rfl
  | cons entry rest inductionHypothesis =>
    have later := inductionHypothesis fun name member => short name (.tail _ member)
    have named : (Value.text true entry.1).name? = some entry.1 := by
      simp [name?, untagged, short entry.1 List.mem_cons_self]
    rw [List.map_cons, List.mapM_cons, later]
    simp [named]

/-- The reader of a record finds the fields that the record was made of. -/
theorem record?_record {names : List String} (named : Named names)
    (fields : List (String × Value)) (same : fields.map (·.1) = names) :
    (record fields).record? names = some fields := by
  subst same
  -- Both checks of the reader pass: all names are known, and none of them stands twice.
  have known : (fields.all fun entry =>
      (fields.map (·.1)).contains entry.1 || entry.2.isSkippable) = true := by
    rw [List.all_eq_true]
    intro entry member
    rw [List.contains_iff_mem.2 (List.mem_map_of_mem member), Bool.true_or]
  have single : ((fields.map (·.1)).all fun name =>
      (fields.filter (·.1 = name)).length ≤ 1) = true := by
    rw [List.all_eq_true]
    intro name member
    have once := List.nodup_iff_count_le_one.1 named.distinct name
    rw [List.count_eq_countP, List.countP_map, List.countP_eq_length_filter] at once
    exact decide_eq_true once
  have read : fields? (fields.map (·.1))
      (fields.map fun (name, value) => (Value.text true name, value)) = some fields := by
    rw [fields?, mapM_entries named.short]
    simp only [Option.bind_eq_bind, Option.bind_some, known, single]
    rfl
  exact read

end Value

/-! ## Kinds of messages -/

theorem headAfterTags_of_read {bytes rest : Bytes} {found : Head}
    (result : Head.read bytes = some (found, rest)) (untagged : ∀ n, found ≠ .tag n) :
    headAfterTags bytes.length bytes = some (found, rest) := by
  cases bytes with
  | nil => cases result
  | cons first more =>
    rw [List.length_cons, headAfterTags, result]
    cases found with
    | tag n => exact absurd rfl (untagged n)
    | _ => rfl

theorem headAfterTags_text {name : String} (short : name.utf8ByteSize ≤ nameLimit)
    (rest : Bytes) :
    headAfterTags (write (.text true name) ++ rest).length (write (.text true name) ++ rest) =
      some (.text (some name.utf8ByteSize), Bytes.ofText name ++ rest) := by
  refine headAfterTags_of_read ?_ fun n same => by cases same
  have fits : name.utf8ByteSize < numberLimit :=
    Nat.lt_of_le_of_lt short (by decide)
  rw [write, List.append_assoc, Head.read_head (by decide) fits]
  rfl

theorem readName_write {name : String} (short : name.utf8ByteSize ≤ nameLimit) (rest : Bytes) :
    readName (write (.text true name) ++ rest) = some (name, rest) := by
  have split := splitOff_append (Bytes.ofText name) rest
  rw [Bytes.length_ofText] at split
  rw [readName, headAfterTags_text short]
  simp [short, split]

/-- A kind alone. -/
theorem readVariant_text {kind : String} (short : kind.utf8ByteSize ≤ nameLimit) :
    readVariant (write (.text true kind)) = some (kind, none) := by
  have found := headAfterTags_text short []
  have name := readName_write short []
  rw [List.append_nil] at found name
  rw [readVariant, found, name]
  rfl

/-- A kind with a content, which is still to be read. -/
theorem readVariant_record {kind : String} (short : kind.utf8ByteSize ≤ nameLimit)
    (content : Value) :
    readVariant (write (.record [(kind, content)])) = some (kind, some (write content)) := by
  have written : write (.record [(kind, content)]) =
      head 5 1 ++ (write (.text true kind) ++ write content) := by
    simp [Value.record, write, writeEntries]
  have found : headAfterTags (write (.record [(kind, content)])).length
      (write (.record [(kind, content)])) =
        some (.map (some 1), write (.text true kind) ++ write content) := by
    refine headAfterTags_of_read ?_ fun n same => by cases same
    rw [written, Head.read_head (by decide) (by decide)]
    rfl
  rw [readVariant, found]
  simp [readName_write short]

theorem readContent_write {content : Value} (plain : content.Plain (nestingLimit - 1))
    (small : (write content).length < numberLimit) :
    readContent (some (write content)) = some content := by
  have result := read_write plain small []
  rw [List.append_nil] at result
  simp [readContent, result]

end DataSync.Cbor
