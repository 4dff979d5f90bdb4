import DataSync.Obex.Header
import DataSync.Proofs.Text.Utf16
import Mathlib.Data.List.TakeWhile
import Mathlib.Tactic.SplitIfs

/-!
# Canonical headers

What is read where a header was written, and the headers that are read as they were written.  A name
must not have the zero character, which ends a text, and a header of no kind of its own must leave the
identifiers of the kinds alone and have the size that its form prescribes.  Reading gives canonical
headers only, so that these are exactly the headers which octets can stand for.
-/

namespace DataSync.Obex

theorem HeaderForm.ofId_eq_octet {id : UInt8} :
    HeaderForm.ofId id = .octet ↔ id.toNat / 64 = 2 := by
  have small := id.toNat_lt
  simp only [ofId, UInt8.lt_iff_toNat_lt]
  grind

theorem HeaderForm.ofId_eq_word {id : UInt8} : HeaderForm.ofId id = .word ↔ id.toNat / 64 = 3 := by
  have small := id.toNat_lt
  simp only [ofId, UInt8.lt_iff_toNat_lt]
  grind

namespace Header

/-- The identifiers of the headers that have a kind of their own. -/
def ownIds : List UInt8 :=
  [0x01, 0x42, 0x46, 0x48, 0x49, 0x4A, 0xC3, 0xCB]

/-- A header that is read as it is written.  The quotient is the two high bits of the identifier. -/
def Canonical : Header → Prop
  | name text => '\x00' ∉ text.toList
  | other id value => id ∉ ownIds ∧ (id.toNat / 64 = 2 → value.length = 1) ∧
      (id.toNat / 64 = 3 → value.length = 4)
  | type _ | length _ | target _ | body _ | endOfBody _ | who _ | connectionId _ => True

instance : DecidablePred Canonical
  | name text => inferInstanceAs (Decidable ('\x00' ∉ text.toList))
  | other id value => inferInstanceAs (Decidable (id ∉ ownIds ∧
      (id.toNat / 64 = 2 → value.length = 1) ∧ (id.toNat / 64 = 3 → value.length = 4)))
  | type _ | length _ | target _ | body _ | endOfBody _ | who _ | connectionId _ => .isTrue trivial

/-- A value of a given size: cut, or filled up with zeros. -/
def fitted (size : Nat) (value : Bytes) : Bytes :=
  (value ++ List.replicate size 0).take size

/-- The header that is read where another one was written. -/
def conveyed : Header → Header
  | name text => name (String.ofList (text.toList.takeWhile (· ≠ '\x00')))
  | other id value =>
    if id.toNat / 64 = 2 then other id (fitted 1 value)
    else if id.toNat / 64 = 3 then ofWord id (fitted 4 value)
    else other id value
  | header => header

/-- A header with a length in front of its value does not pass for one of a kind of its own. -/
def Undisguised : Header → Prop
  | other id _ => id.toNat / 64 < 2 → id ∉ ownIds
  | _ => True

/-! ## Values -/

theorem units?_wordOctets {units : List Nat} (small : ∀ unit ∈ units, unit < 65536) :
    units? (wordOctets units) = some units := by
  induction units with
  | nil => rfl
  | cons unit rest inductionHypothesis =>
    have readRest := inductionHypothesis fun other member => small other (List.mem_cons_of_mem _ member)
    have value := Bytes.word_ofWord (small unit List.mem_cons_self)
    simp only [wordOctets] at readRest
    simp only [wordOctets, List.flatMap_cons, Bytes.ofWord, List.cons_append, List.nil_append,
      units?, readRest, value, Option.map_some]

theorem lt_of_mem_units? {value : Bytes} {units : List Nat} (read : units? value = some units) :
    ∀ unit ∈ units, unit < 65536 := by
  fun_induction units? value generalizing units with
  | case1 => simp_all
  | case2 => simp at read
  | case3 high low rest inductionHypothesis =>
    obtain ⟨others, readRest, rfl⟩ := Option.map_eq_some_iff.1 read
    have highSmall := high.toNat_lt
    have lowSmall := low.toNat_lt
    intro unit member
    obtain rfl | later := List.mem_cons.1 member
    · omega
    · exact inductionHypothesis readRest unit later

theorem readText_wordOctets (text : String) :
    readText (wordOctets (Text.Utf16.encode text.toList ++ [0])) =
      .ok (String.ofList (text.toList.takeWhile (· ≠ '\x00'))) := by
  have small : ∀ unit ∈ Text.Utf16.encode text.toList ++ [0], unit < 65536 := by
    intro unit member
    obtain written | terminator := List.mem_append.1 member
    · exact Text.Utf16.lt_of_mem_encode written
    · rw [List.mem_singleton.1 terminator]
      decide
  simp only [readText, units?_wordOctets small, Text.Utf16.takeWhile_encode,
    Text.Utf16.decode_encode]

theorem zero_not_mem_of_readText {value : Bytes} {text : String}
    (read : readText value = .ok text) : '\x00' ∉ text.toList := by
  rw [readText] at read
  split at read
  · cases read
  · rename_i units taken
    split at read
    · cases read
    · rename_i chars decoded
      cases read
      rw [String.toList_ofList]
      refine Text.Utf16.zero_not_mem_of_decode (fun unit member => ?_) decoded
      have positive := List.all_eq_true.1 List.all_takeWhile unit member
      exact ⟨by simpa using positive,
        lt_of_mem_units? taken unit ((List.takeWhile_sublist _).subset member)⟩

theorem readType_ofText (mime : String) : readType (Bytes.ofText mime ++ [0]) = .ok mime := by
  simp [readType]

/-! ## Headers and what follows them -/

/-- The answer of a reader without the proof that fewer octets are left. -/
def readAnswer (bytes : Bytes) : Except PacketFault (Header × Bytes) :=
  (read bytes).map fun answer => (answer.1, answer.2.1)

variable {id : UInt8} {header : Header} {value rest bytes : Bytes}

theorem readAnswer_sized (form : HeaderForm.ofId id = .text ∨ HeaderForm.ofId id = .sequence)
    (small : 3 + value.length < 65536) (rest : Bytes) :
    readAnswer (id :: (sized value ++ rest)) = (ofSized id value).map (·, rest) := by
  have size := Bytes.word_ofWord small
  have notTooSmall : ¬ 3 + value.length < 3 := by omega
  have valueSize : 3 + value.length - 3 = value.length := by omega
  have enough : ¬ (value ++ rest).length < value.length := by simp
  obtain form | form := form
  all_goals
    simp only [readAnswer, read, sized, Bytes.ofWord, List.cons_append, List.nil_append, form, size,
      notTooSmall, valueSize, enough, if_false, List.take_left, List.drop_left]
    cases ofSized id value <;> rfl

theorem readAnswer_octet (form : HeaderForm.ofId id = .octet) (octet : UInt8) (rest : Bytes) :
    readAnswer (id :: octet :: rest) = .ok (other id [octet], rest) := by
  simp only [readAnswer, read, form]
  rfl

theorem readAnswer_word (form : HeaderForm.ofId id = .word) (a b c d : UInt8) (rest : Bytes) :
    readAnswer (id :: a :: b :: c :: d :: rest) = .ok (ofWord id [a, b, c, d], rest) := by
  simp only [readAnswer, read, form]
  rfl

/-- Where the header at the start of octets comes from. -/
theorem exists_id_of_read {answer : Header × { rest : Bytes // rest.length < bytes.length }}
    (result : read bytes = .ok answer) : ∃ id,
      HeaderForm.ofId id = .octet ∧ (∃ octet, answer.1 = other id [octet]) ∨
      HeaderForm.ofId id = .word ∧ (∃ a b c d, answer.1 = ofWord id [a, b, c, d]) ∨
      (HeaderForm.ofId id = .text ∨ HeaderForm.ofId id = .sequence) ∧
        ∃ value, ofSized id value = .ok answer.1 := by
  cases bytes with
  | nil => cases result
  | cons id rest =>
    refine ⟨id, ?_⟩
    cases form : HeaderForm.ofId id
    case octet =>
      simp only [read, form] at result
      split at result
      · cases result
      · cases result
        exact .inl ⟨rfl, _, rfl⟩
    case word =>
      simp only [read, form] at result
      split at result
      · cases result
        exact .inr (.inl ⟨rfl, _, _, _, _, rfl⟩)
      · cases result
    all_goals
      simp only [read, form] at result
      split at result
      case h_2 => cases result
      rename_i high low rest
      split at result
      · cases result
      · split at result
        · cases result
        · generalize read : ofSized id (rest.take (high.toNat * 256 + low.toNat - 3)) = header at result
          cases header with
          | error fault => cases result
          | ok header =>
            cases result
            exact .inr (.inr ⟨by simp, _, read⟩)

/-! ## Reading written headers -/

theorem length_sized (value : Bytes) : (sized value).length = 2 + value.length := by
  simp only [sized, Bytes.ofWord, List.length_append, List.length_cons, List.length_nil]

theorem length_wordOctets (units : List Nat) : (wordOctets units).length = units.length * 2 := by
  induction units with
  | nil => rfl
  | cons unit rest inductionHypothesis =>
    simp only [wordOctets] at inductionHypothesis
    simp only [wordOctets, List.flatMap_cons, List.length_append, inductionHypothesis, Bytes.ofWord,
      List.length_cons, List.length_nil]
    omega

theorem length_fitted (size : Nat) (value : Bytes) : (fitted size value).length = size := by
  simp [fitted]

theorem fitted_eq_self_iff {size : Nat} : fitted size value = value ↔ value.length = size := by
  constructor
  · intro same
    rw [← same, length_fitted]
  · intro fits
    simp [fitted, fits]

theorem payload_octet (form : HeaderForm.ofId id = .octet) :
    (other id value).payload = fitted 1 value := by
  simp only [payload, form]
  cases value <;> simp [fitted]

theorem payload_word (form : HeaderForm.ofId id = .word) :
    (other id value).payload = fitted 4 value := by
  simp only [payload, form]
  rfl

/-- The length of a header counts its identifier, the length in front of its value and the value. -/
theorem encodedLength_eq_payload (header : Header) :
    header.encodedLength = 1 + (if header.isSized then 2 else 0) + header.payload.length := by
  cases header with
  | name text =>
    have sized : (name text).isSized = true := rfl
    simp only [sized, if_true, payload, encodedLength, length_wordOctets, List.length_append,
      List.length_cons, List.length_nil]
  | type mime =>
    have sized : (type mime).isSized = true := rfl
    simp only [sized, if_true, payload, encodedLength, Bytes.length_ofText, List.length_append,
      List.length_cons, List.length_nil]
    omega
  | length _ | connectionId _ => rfl
  | target _ | body _ | endOfBody _ | who _ => rfl
  | other id value =>
    cases form : HeaderForm.ofId id
    case octet =>
      simp [encodedLength, isSized, Header.id, HeaderForm.isSized, form, payload_octet, length_fitted]
    case word =>
      simp [encodedLength, isSized, Header.id, HeaderForm.isSized, form, payload_word, length_fitted]
    all_goals
      simp only [encodedLength, isSized, Header.id, HeaderForm.isSized, form, payload, if_true]

/-- Without a length in front of it a value has at most four octets. -/
theorem length_payload_of_not_sized (notSized : ¬ header.isSized = true) :
    header.payload.length ≤ 4 := by
  cases header with
  | length _ | connectionId _ => exact Nat.le_refl 4
  | other id value =>
    cases form : HeaderForm.ofId id
    case octet => simp [payload_octet form, length_fitted]
    case word => simp [payload_word form, length_fitted]
    all_goals simp [isSized, Header.id, HeaderForm.isSized, form] at notSized
  | _ => exact absurd rfl notSized

/-- The length of a header is that of its octets, canonical or not. -/
theorem length_octets (header : Header) : header.octets.length = header.encodedLength := by
  rw [encodedLength_eq_payload, octets, List.length_cons]
  split
  · rw [length_sized]
    omega
  · omega

/-- A header is written exactly if its octets are not too many for two octets to count them. -/
theorem write_eq_ok_iff {octets : Bytes} :
    header.write = .ok octets ↔ header.encodedLength ≤ 65535 ∧ octets = header.octets := by
  have length := encodedLength_eq_payload header
  unfold write
  split
  · rename_i large
    rw [large.1, if_pos rfl] at length
    constructor
    · intro written
      cases written
    · intro ⟨small, _⟩
      have := large.2
      simp only [UInt16.size] at this
      omega
  · rename_i fits
    constructor
    · intro written
      cases written
      refine ⟨?_, rfl⟩
      by_cases sized : header.isSized = true
      · have : ¬ UInt16.size ≤ 3 + header.payload.length := fun large => fits ⟨sized, large⟩
        rw [sized, if_pos rfl] at length
        simp only [UInt16.size] at this
        omega
      · have := length_payload_of_not_sized sized
        rw [if_neg sized] at length
        omega
    · intro ⟨_, same⟩
      rw [same]

theorem ofWord_ofLong (id : UInt8) (n : UInt32) :
    ofWord id (Bytes.ofLong n.toNat) =
      if id = 0xC3 then length n else if id = 0xCB then connectionId n
      else other id (Bytes.ofLong n.toNat) := by
  rw [ofWord, Bytes.toNat_ofLong n.toNat_lt, UInt32.ofNat_toNat]

theorem ofSized_other (notOwn : id ∉ ownIds) (value : Bytes) :
    ofSized id value = .ok (other id value) := by
  simp only [ownIds, List.mem_cons, List.not_mem_nil, or_false, not_or] at notOwn
  simp [ofSized, notOwn]

theorem ofWord_other (notOwn : id ∉ ownIds) (value : Bytes) : ofWord id value = other id value := by
  simp only [ownIds, List.mem_cons, List.not_mem_nil, or_false, not_or] at notOwn
  simp [ofWord, notOwn]

theorem readAnswer_other (undisguised : (other id value).Undisguised)
    (small : (other id value).encodedLength < 65536) (rest : Bytes) :
    readAnswer ((other id value).octets ++ rest) = .ok ((other id value).conveyed, rest) := by
  cases form : HeaderForm.ofId id
  case octet =>
    have quotient := HeaderForm.ofId_eq_octet.1 form
    obtain ⟨octet, fits⟩ := List.length_eq_one_iff.1 (length_fitted 1 value)
    simp only [octets, isSized, Header.id, form, HeaderForm.isSized, payload_octet form, fits,
      conveyed, quotient, if_true]
    exact readAnswer_octet form octet rest
  case word =>
    have quotient := HeaderForm.ofId_eq_word.1 form
    obtain ⟨a, b, c, d, fits⟩ : ∃ a b c d, fitted 4 value = [a, b, c, d] := by
      have size := length_fitted 4 value
      match fitted 4 value, size with
      | [a, b, c, d], _ => exact ⟨a, b, c, d, rfl⟩
    simp only [octets, isSized, Header.id, form, HeaderForm.isSized, payload_word form, fits,
      conveyed, quotient, if_true]
    exact readAnswer_word form a b c d rest
  all_goals
    have noOctet : id.toNat / 64 ≠ 2 := fun octet => by
      rw [HeaderForm.ofId_eq_octet.2 octet] at form
      cases form
    have noWord : id.toNat / 64 ≠ 3 := fun word => by
      rw [HeaderForm.ofId_eq_word.2 word] at form
      cases form
    have small' : 3 + value.length < 65536 := by simpa [encodedLength, form] using small
    have notOwn : id ∉ ownIds := undisguised (by have := id.toNat_lt; omega)
    simp only [octets, isSized, Header.id, form, HeaderForm.isSized, payload, conveyed, noOctet,
      noWord, if_true, if_false]
    refine (readAnswer_sized (by simp [form]) small' rest).trans ?_
    rw [ofSized_other notOwn]
    rfl

/-- Where a header was written, the one is read that it conveys, whatever follows it. -/
theorem readAnswer_octets (undisguised : header.Undisguised) (small : header.encodedLength < 65536)
    (rest : Bytes) : readAnswer (header.octets ++ rest) = .ok (header.conveyed, rest) := by
  -- The length in front of a value fits into its two octets.
  have sizedSmall : header.isSized = true → 3 + header.payload.length < 65536 := by
    intro sized
    have length := encodedLength_eq_payload header
    rw [sized, if_pos rfl] at length
    omega
  cases header with
  | name text =>
    refine (readAnswer_sized (.inl rfl) (sizedSmall rfl) rest).trans ?_
    change ((readText (wordOctets _)).map Header.name).map (·, rest) = _
    rw [readText_wordOctets]
    rfl
  | type mime =>
    refine (readAnswer_sized (.inr rfl) (sizedSmall rfl) rest).trans ?_
    change ((readType (_ ++ _)).map Header.type).map (·, rest) = _
    rw [readType_ofText]
    rfl
  | length n =>
    have read : ofWord 0xC3 (Bytes.ofLong n.toNat) = length n := ofWord_ofLong 0xC3 n
    refine (readAnswer_word rfl _ _ _ _ rest).trans ?_
    exact congrArg (fun header => Except.ok (header, rest)) read
  | connectionId n =>
    have read : ofWord 0xCB (Bytes.ofLong n.toNat) = connectionId n := ofWord_ofLong 0xCB n
    refine (readAnswer_word rfl _ _ _ _ rest).trans ?_
    exact congrArg (fun header => Except.ok (header, rest)) read
  | target value => exact readAnswer_sized (.inr rfl) (sizedSmall rfl) rest
  | body value => exact readAnswer_sized (.inr rfl) (sizedSmall rfl) rest
  | endOfBody value => exact readAnswer_sized (.inr rfl) (sizedSmall rfl) rest
  | who value => exact readAnswer_sized (.inr rfl) (sizedSmall rfl) rest
  | other id value => exact readAnswer_other undisguised small rest

theorem Canonical.undisguised (canonical : header.Canonical) : header.Undisguised := by
  cases header with
  | other id value => exact fun _ => canonical.1
  | _ => trivial

/-- A canonical header conveys itself. -/
theorem Canonical.conveyed_eq (canonical : header.Canonical) : header.conveyed = header := by
  cases header with
  | name text =>
    have whole : text.toList.takeWhile (· ≠ '\x00') = text.toList := by
      rw [List.takeWhile_eq_self_iff]
      intro c member
      simpa using fun zero : c = '\x00' => canonical (zero ▸ member)
    simp only [conveyed, whole, String.ofList_toList]
  | other id value =>
    obtain ⟨notOwn, octetSize, wordSize⟩ := canonical
    simp only [conveyed]
    split_ifs with octet word
    · rw [fitted_eq_self_iff.2 (octetSize octet)]
    · rw [ofWord_other notOwn, fitted_eq_self_iff.2 (wordSize word)]
    · rfl
  | _ => rfl

/-! ## Read headers -/

theorem canonical_of_ofSized (form : HeaderForm.ofId id = .text ∨ HeaderForm.ofId id = .sequence)
    (read : ofSized id value = .ok header) : header.Canonical := by
  rw [ofSized] at read
  split_ifs at read with isName isType isTarget isBody isEndOfBody isWho
  · obtain ⟨text, named, rfl⟩ := map_eq_ok_iff.1 read
    exact zero_not_mem_of_readText named
  · obtain ⟨mime, _, rfl⟩ := map_eq_ok_iff.1 read
    trivial
  iterate 4
    · cases read
      trivial
  · -- The two identifiers that were not asked for are of a different form.
    cases read
    have others : ∀ own ∈ ownIds, HeaderForm.ofId own = .text ∨ HeaderForm.ofId own = .sequence →
        own ∈ [0x01, 0x42, 0x46, 0x48, 0x49, 0x4A] := by decide +kernel
    refine ⟨fun own => ?_, fun octet => ?_, fun word => ?_⟩
    · have kinds := others id own form
      simp [isName, isType, isTarget, isBody, isEndOfBody, isWho] at kinds
    · rw [HeaderForm.ofId_eq_octet.2 octet] at form
      simp at form
    · rw [HeaderForm.ofId_eq_word.2 word] at form
      simp at form

theorem canonical_ofWord (form : HeaderForm.ofId id = .word) (a b c d : UInt8) :
    (ofWord id [a, b, c, d]).Canonical := by
  rw [ofWord]
  split_ifs with length connection
  · trivial
  · trivial
  · have others : ∀ own ∈ ownIds, HeaderForm.ofId own = .word → own = 0xC3 ∨ own = 0xCB := by
      decide +kernel
    refine ⟨fun own => ?_, fun octet => ?_, fun _ => rfl⟩
    · exact (others id own form).elim length connection
    · rw [HeaderForm.ofId_eq_octet.2 octet] at form
      cases form

theorem canonical_octet (form : HeaderForm.ofId id = .octet) (octet : UInt8) :
    (other id [octet]).Canonical := by
  have notOwn : ∀ own ∈ ownIds, HeaderForm.ofId own ≠ .octet := by decide +kernel
  refine ⟨fun own => notOwn id own form, fun _ => rfl, fun word => ?_⟩
  rw [HeaderForm.ofId_eq_word.2 word] at form
  cases form

end Header

end DataSync.Obex
