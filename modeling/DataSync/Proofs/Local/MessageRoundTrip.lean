import DataSync.Local.Frame
import DataSync.Proofs.Cbor.Records

/-!
# Reading written messages

Parent and child understand each other: every message of either is read from the octets it was written
as, with all that it carries.
-/

namespace DataSync.Local

open Cbor (Value)
open Cbor.Value (record?_record)

/-! ## From values -/

@[simp] theorem text?_textValue (content : String) : (textValue content).text? = some content := rfl

@[simp] theorem textOrNull?_textOrNull (content : Option String) :
    (Value.textOrNull content).textOrNull? = some content := by
  cases content <;> rfl

@[simp] theorem bool?_bool (b : Bool) : (Value.bool b).bool? = some b := by
  cases b <;> rfl

@[simp] theorem bytes?_bytes (content : Bytes) : (Value.bytes content).bytes? = some content := rfl

@[simp] theorem number?_unsigned {n limit : Nat} (small : n < limit) :
    (Value.unsigned n).number? limit = some n := by
  simp [Value.number?, small]

@[simp] theorem untagged_record (fields : List (String × Value)) :
    (Value.record fields).untagged = .record fields := by
  simp [Value.record, Value.untagged]

theorem mapM_eq_some {α : Type} {write : α → Value} {read : Value → Option α}
    (roundTrip : ∀ a, read (write a) = some a) (items : List α) :
    (items.map write).mapM read = some items := by
  induction items with
  | nil => rfl
  | cons item rest inductionHypothesis =>
    simp [inductionHypothesis, roundTrip]

theorem list?_array {α : Type} {write : α → Value} {read : Value → Option α}
    (roundTrip : ∀ a, read (write a) = some a) (items : List α) :
    (Value.array (items.map write)).list? read = some items := by
  simp [Value.list?, Value.untagged, mapM_eq_some roundTrip]

theorem SourceRequest.ofValue?_toValue (source : SourceRequest) :
    ofValue? source.toValue = some source := by
  have fields := record?_record (show Cbor.Named ["name", "mode"] by decide) [
    ("name", textValue source.name), ("mode", textValue source.mode)] rfl
  simp [ofValue?, toValue, fields, Cbor.field]

theorem StartSync.ofValue?_toValue (start : StartSync) : ofValue? start.toValue = some start := by
  have fields := record?_record (show Cbor.Named
    ["config", "parent_config", "sources", "username", "password"] by decide) [
      ("config", textValue start.config), ("parent_config", textValue start.parentConfig),
      ("sources", .array (start.sources.map SourceRequest.toValue)),
      ("username", textValue start.username), ("password", textValue start.password)] rfl
  have sources := list?_array SourceRequest.ofValue?_toValue start.sources
  simp [ofValue?, toValue, fields, Cbor.field, sources]

theorem messageOfValue?_messageValue (message : Message) :
    messageOfValue? (messageValue message) = some message := by
  have fields := record?_record (show Cbor.Named ["content_type", "data"] by decide) [
    ("content_type", textValue message.contentType), ("data", .bytes message.data)] rfl
  simp [messageOfValue?, messageValue, fields, Cbor.field]

theorem keyOfValue?_keyValue (key : PasswordKey) : keyOfValue? (keyValue key) = some key := by
  have fields := record?_record (show Cbor.Named
    ["user", "server", "domain", "object", "protocol", "authtype", "port"] by decide) [
      ("user", textValue key.user), ("server", textValue key.server),
      ("domain", textValue key.domain), ("object", textValue key.object),
      ("protocol", textValue key.protocol), ("authtype", textValue key.authtype),
      ("port", .unsigned key.port.toNat)] rfl
  have port : (Value.unsigned key.port.toNat).number? 65536 = some key.port.toNat :=
    number?_unsigned key.port.toNat_lt
  rw [keyOfValue?, keyValue, untagged_record, fields]
  -- Looking the names up and reading the texts is computation; only the port has a limit to check.
  change ((Value.unsigned key.port.toNat).number? 65536).bind _ = _
  rw [port, Option.bind_some, UInt16.ofNat_toNat]
  rfl

theorem ChildReport.ofValue?_toValue (report : ChildReport) :
    ofValue? report.toValue = some report := by
  have fields := record?_record (show Cbor.Named ["status", "error"] by decide) [
    ("status", .unsigned report.status.toNat), ("error", .textOrNull report.error)] rfl
  simp [ofValue?, toValue, fields, Cbor.field, Cbor.optionalText, report.status.toNat_lt]

theorem ParentMessage.ofContent?_content (message : ParentMessage) :
    ofContent? message.kind message.content = some message := by
  cases message with
  | startSync start => simp [ofContent?, kind, content, StartSync.ofValue?_toValue]
  | message message => simp [ofContent?, kind, content, messageOfValue?_messageValue]
  | passwordResponse password =>
    have fields := record?_record (show Cbor.Named ["password"] by decide) [
      ("password", .textOrNull password)] rfl
    simp [ofContent?, kind, content, fields, Cbor.optionalText, Cbor.field]
  | savePasswordResponse saved =>
    have fields := record?_record (show Cbor.Named ["saved"] by decide) [("saved", .bool saved)] rfl
    simp [ofContent?, kind, content, fields, Cbor.field]

theorem ChildMessage.ofContent?_content {message : ChildMessage} {content : Value}
    (holds : message.content = some content) :
    ofContent? message.kind content = some message := by
  cases message with
  | ready => cases holds
  | reply message =>
    cases holds
    simp [ofContent?, kind, messageOfValue?_messageValue]
  | askPassword name description key =>
    cases holds
    have fields := record?_record (show Cbor.Named ["name", "description", "key"] by decide) [
      ("name", textValue name), ("description", textValue description),
      ("key", keyValue key)] rfl
    simp [ofContent?, kind, fields, Cbor.field, keyOfValue?_keyValue]
  | savePassword name password key =>
    cases holds
    have fields := record?_record (show Cbor.Named ["name", "password", "key"] by decide) [
      ("name", textValue name), ("password", textValue password), ("key", keyValue key)] rfl
    simp [ofContent?, kind, fields, Cbor.field, keyOfValue?_keyValue]
  | report report =>
    cases holds
    simp [ofContent?, kind, ChildReport.ofValue?_toValue]

/-! ## Nesting -/

section Plain

variable {depth : Nat}

@[simp] theorem plain_textValue (content : String) : (textValue content).Plain depth := by
  simp [textValue, Value.Plain]

@[simp] theorem plain_textOrNull (content : Option String) :
    (Value.textOrNull content).Plain depth := by
  cases content <;> simp [Value.textOrNull, Value.null, Value.Plain]

@[simp] theorem plain_bool (b : Bool) : (Value.bool b).Plain depth := by
  cases b <;> simp [Value.bool, Value.Plain]

theorem plain_record {fields : List (String × Value)}
    (plain : ∀ field ∈ fields, field.2.Plain depth) : (Value.record fields).Plain (depth + 1) := by
  rw [Value.record, Value.Plain]
  induction fields with
  | nil => trivial
  | cons field rest inductionHypothesis =>
    refine ⟨plain_textValue field.1, plain field List.mem_cons_self, ?_⟩
    exact inductionHypothesis fun other member => plain other (.tail _ member)

theorem plain_array {items : List Value} (plain : ∀ item ∈ items, item.Plain depth) :
    (Value.array items).Plain (depth + 1) := by
  rw [Value.Plain]
  induction items with
  | nil => trivial
  | cons item rest inductionHypothesis =>
    refine ⟨plain item List.mem_cons_self, ?_⟩
    exact inductionHypothesis fun other member => plain other (.tail _ member)

theorem plain_messageValue (message : Message) : (messageValue message).Plain (depth + 1) :=
  plain_record (by simp [Value.Plain])

theorem plain_keyValue (key : PasswordKey) : (keyValue key).Plain (depth + 1) := by
  have port := key.port.toNat_lt
  refine plain_record ?_
  simp [Value.Plain, Cbor.numberLimit]
  omega

theorem ParentMessage.plain_content (message : ParentMessage) :
    message.content.Plain (depth + 3) := by
  cases message with
  | startSync start =>
    have sources : (Value.array (start.sources.map SourceRequest.toValue)).Plain (depth + 2) := by
      refine plain_array fun item member => ?_
      obtain ⟨source, -, rfl⟩ := List.mem_map.1 member
      exact plain_record (by simp)
    exact plain_record (by simp [sources])
  | message message => exact plain_messageValue message
  | passwordResponse password => exact plain_record (by simp)
  | savePasswordResponse saved => exact plain_record (by simp)

theorem ChildMessage.plain_content {message : ChildMessage} {content : Value}
    (holds : message.content = some content) : content.Plain (depth + 2) := by
  cases message with
  | ready => cases holds
  | reply message =>
    cases holds
    exact plain_messageValue message
  | askPassword name description key =>
    cases holds
    exact plain_record (by simp [plain_keyValue])
  | savePassword name password key =>
    cases holds
    exact plain_record (by simp [plain_keyValue])
  | report report =>
    cases holds
    have status := report.status.toNat_lt
    refine plain_record ?_
    simp [Value.Plain, Cbor.numberLimit]
    omega

end Plain

/-! ## Messages -/

/-- A type of messages that are read as they were written. -/
class LawfulFramed (μ : Type) [Framed μ] : Prop where
  decode?_write : ∀ message : μ,
    (Cbor.write (Framed.toValue message)).length ≤ frameLimit →
      Framed.decode? (Cbor.write (Framed.toValue message)) = some message

/-- A message has more octets than its content. -/
theorem small_of_record {kind : String} {content : Value}
    (small : (Cbor.write (.record [(kind, content)])).length ≤ frameLimit) :
    (Cbor.write content).length < Cbor.numberLimit := by
  have limits : frameLimit < Cbor.numberLimit := by decide
  simp only [Value.record, List.map_cons, List.map_nil, Cbor.write, Cbor.writeEntries,
    List.length_append] at small
  omega

instance : LawfulFramed ParentMessage where
  decode?_write message small := by
    have short : message.kind.utf8ByteSize ≤ Cbor.nameLimit := by
      cases message <;> (simp only [ParentMessage.kind]; decide)
    have content := Cbor.readContent_write message.plain_content (small_of_record small)
    simp [Framed.decode?, Framed.toValue, ParentMessage.decode?, ParentMessage.toValue,
      Cbor.readVariant_record short, content, message.ofContent?_content]

instance : LawfulFramed ChildMessage where
  decode?_write message small := by
    have short : message.kind.utf8ByteSize ≤ Cbor.nameLimit := by
      cases message <;> (simp only [ChildMessage.kind]; decide)
    cases holds : message.content with
    | none =>
      cases message with
      | ready =>
        have read := Cbor.readVariant_text short
        simp only [Framed.decode?, Framed.toValue, ChildMessage.decode?, ChildMessage.toValue,
          holds, textValue, read]
        rfl
      | _ => cases holds
    | some value =>
      have written : Framed.toValue message = .record [(message.kind, value)] := by
        simp only [Framed.toValue, ChildMessage.toValue, holds]
      rw [written] at small ⊢
      have other : message.kind ≠ "Ready" := by
        cases message with
        | ready => cases holds
        | _ => simp [ChildMessage.kind]
      have content := Cbor.readContent_write (ChildMessage.plain_content holds)
        (small_of_record small)
      simp [Framed.decode?, ChildMessage.decode?, Cbor.readVariant_record short, other, content,
        ChildMessage.ofContent?_content holds]

end DataSync.Local
