import DataSync.Obex.Address
import DataSync.Proofs.Text.Cutting
import DataSync.Proofs.Text.Numerals
import Mathlib.Data.List.DropRight

/-!
# The grammar of addresses

Which texts denote which addresses, stated without the reader: a scheme in any case, then a device with
an optional channel, or a host with an optional port and any number of slashes.  The reader follows this
grammar, except that it admits a plus sign in front of a number and colons in a host.
-/

namespace DataSync.Obex.Address

open DataSync.Text

/-! ## The grammar -/

/-- Characters are a scheme, written in any case. -/
def InAnyCase (scheme : String) (chars : List Char) : Prop :=
  chars.map Char.toLower = scheme.toList

theorem inAnyCase_bluetooth : InAnyCase "obex-bt://" "obex-bt://".toList := rfl

theorem inAnyCase_tcp : InAnyCase "obex-tcp://" "obex-tcp://".toList := rfl

/-- A hexadecimal digit of either case. -/
def IsHexDigit (c : Char) : Prop :=
  '0' ≤ c ∧ c ≤ '9' ∨ 'a' ≤ c ∧ c ≤ 'f' ∨ 'A' ≤ c ∧ c ≤ 'F'

/-- Six groups of two hexadecimal digits each with colons between them. -/
def IsDeviceText (chars : List Char) : Prop :=
  ∃ groups : List (List Char), groups.length = 6 ∧
    (∀ group ∈ groups, group.length = 2 ∧ ∀ c ∈ group, IsHexDigit c) ∧ chars = [':'].intercalate groups

/-- A device in capital letters. -/
def deviceOf (chars : List Char) : String :=
  String.ofList (chars.map Char.toUpper)

/-- The address that a text denotes.  The slashes at the end of a network address mean nothing. -/
inductive Denotes : List Char → Address → Prop where
  | device {scheme device : List Char} (named : InAnyCase "obex-bt://" scheme)
      (hexadecimal : IsDeviceText device) :
    Denotes (scheme ++ device) (.bluetooth (deviceOf device) none)
  | channel {scheme device digits : List Char} {channel : Nat} (named : InAnyCase "obex-bt://" scheme)
      (hexadecimal : IsDeviceText device) (written : Writes digits channel)
      (within : 1 ≤ channel ∧ channel ≤ 30) :
    Denotes (scheme ++ (device ++ '+' :: digits)) (.bluetooth (deviceOf device) (some channel))
  | host {scheme host : List Char} (slashes : Nat) (named : InAnyCase "obex-tcp://" scheme)
      (given : host ≠ []) (plain : ':' ∉ host) (ends : host.getLast? ≠ some '/') :
    Denotes (scheme ++ (host ++ List.replicate slashes '/')) (.tcp (String.ofList host) defaultPort)
  | port {scheme host digits : List Char} {port : Nat} (slashes : Nat)
      (named : InAnyCase "obex-tcp://" scheme) (given : host ≠ []) (plain : ':' ∉ host)
      (written : Writes digits port) (within : port ≤ 65535) :
    Denotes (scheme ++ (host ++ ':' :: digits ++ List.replicate slashes '/'))
      (.tcp (String.ofList host) port)

/-- What the reader takes for an address beyond the grammar. -/
inductive Tolerated : List Char → Address → Prop where
  | signedChannel {scheme device digits : List Char} {channel : Nat}
      (named : InAnyCase "obex-bt://" scheme) (hexadecimal : IsDeviceText device)
      (written : Writes digits channel) (within : 1 ≤ channel ∧ channel ≤ 30) :
    Tolerated (scheme ++ (device ++ '+' :: '+' :: digits)) (.bluetooth (deviceOf device) (some channel))
  | signedPort {scheme host digits : List Char} {port : Nat} (slashes : Nat)
      (named : InAnyCase "obex-tcp://" scheme) (given : host ≠ []) (written : Writes digits port)
      (within : port ≤ 65535) :
    Tolerated (scheme ++ (host ++ ':' :: '+' :: digits ++ List.replicate slashes '/'))
      (.tcp (String.ofList host) port)
  | colonBefore {scheme host digits : List Char} {port : Nat} (slashes : Nat)
      (named : InAnyCase "obex-tcp://" scheme) (colon : ':' ∈ host) (written : Writes digits port)
      (within : port ≤ 65535) :
    Tolerated (scheme ++ (host ++ ':' :: digits ++ List.replicate slashes '/'))
      (.tcp (String.ofList host) port)
  | noHost {scheme rest : List Char} (slashes : Nat) (named : InAnyCase "obex-tcp://" scheme)
      (only : ':' ∉ rest) (ends : (':' :: rest).getLast? ≠ some '/') :
    Tolerated (scheme ++ (':' :: rest ++ List.replicate slashes '/'))
      (.tcp (String.ofList (':' :: rest)) defaultPort)

/-! ## Devices -/

theorem isSome_hexDigit? {c : Char} : (hexDigit? c).isSome = true ↔ IsHexDigit c := by
  unfold hexDigit? IsHexDigit
  split
  · simp_all
  · split
    · simp_all
    · split <;> simp_all

theorem not_isHexDigit_colon : ¬ IsHexDigit ':' := by
  simp [IsHexDigit]

theorem not_isHexDigit_plus : ¬ IsHexDigit '+' := by
  simp [IsHexDigit]

theorem isDevice_iff {chars : List Char} : isDevice chars = true ↔ IsDeviceText chars := by
  have digits : ∀ group : List Char,
      (group.length = 2 && group.all fun c => (hexDigit? c).isSome) = true ↔
        group.length = 2 ∧ ∀ c ∈ group, IsHexDigit c := by
    simp [isSome_hexDigit?]
  rw [isDevice, splitAll_eq_splitOn]
  simp only [Bool.and_eq_true, decide_eq_true_eq, List.all_eq_true, digits]
  constructor
  · rintro ⟨six, hexadecimal⟩
    exact ⟨_, six, hexadecimal, (List.intercalate_splitOn ':').symm⟩
  · rintro ⟨groups, six, hexadecimal, rfl⟩
    have noColon : ∀ group ∈ groups, ':' ∉ group := fun group member colon =>
      not_isHexDigit_colon ((hexadecimal group member).2 ':' colon)
    have some : groups ≠ [] := fun none => by simp [none] at six
    rw [List.splitOn_intercalate ':' noColon some]
    exact ⟨six, hexadecimal⟩

theorem IsDeviceText.no_plus {chars : List Char} (device : IsDeviceText chars) : '+' ∉ chars := by
  obtain ⟨groups, -, hexadecimal, rfl⟩ := device
  intro plus
  obtain colon | ⟨group, member, plus⟩ := mem_of_mem_intercalate plus
  · cases colon
  · exact not_isHexDigit_plus ((hexadecimal group member).2 '+' plus)

theorem channel?_eq_some_iff {number : List Char} {channel : Nat} :
    channel? number = some channel ↔ (1 ≤ channel ∧ channel ≤ 30) ∧
      (Writes number channel ∨ ∃ digits, number = '+' :: digits ∧ Writes digits channel) := by
  rw [channel?, Option.filter_eq_some_iff, unsigned?_eq_some_iff, Bool.and_eq_true, decide_eq_true_eq,
    decide_eq_true_eq, and_comm]
  exact and_congr_right fun within => and_iff_right (by omega)

theorem readBluetooth_of_device {device : List Char} (hexadecimal : IsDeviceText device) :
    readBluetooth device = .ok (.bluetooth (deviceOf device) none) := by
  have noChannel := splitAt?_eq_none_iff.2 hexadecimal.no_plus
  have isDevice := isDevice_iff.2 hexadecimal
  simp [readBluetooth, noChannel, isDevice, upperAscii, deviceOf, pure, Except.pure, bind, Except.bind]

theorem readBluetooth_of_channel {device number : List Char} {channel : Nat}
    (hexadecimal : IsDeviceText device) (numbered : channel? number = some channel) :
    readBluetooth (device ++ '+' :: number) = .ok (.bluetooth (deviceOf device) (some channel)) := by
  have split := splitAt?_append hexadecimal.no_plus number
  have isDevice := isDevice_iff.2 hexadecimal
  simp [readBluetooth, split, numbered, isDevice, upperAscii, deviceOf, pure, Except.pure, bind,
    Except.bind]

/-- All that is read as a Bluetooth address is a device, alone or with a channel. -/
theorem readBluetooth_cases {chars : List Char} {address : Address}
    (read : readBluetooth chars = .ok address) :
    (IsDeviceText chars ∧ address = .bluetooth (deviceOf chars) none) ∨
    ∃ device number channel, chars = device ++ '+' :: number ∧ IsDeviceText device ∧
      channel? number = some channel ∧ address = .bluetooth (deviceOf device) (some channel) := by
  rcases split : splitAt? '+' chars with _ | ⟨device, number⟩
  · cases isDevice : isDevice chars with
    | false => simp [readBluetooth, split, isDevice, bind, Except.bind, pure, Except.pure] at read
    | true =>
      have hexadecimal := isDevice_iff.1 isDevice
      rw [readBluetooth_of_device hexadecimal] at read
      exact .inl ⟨hexadecimal, (Except.ok.inj read).symm⟩
  · obtain ⟨rfl, -⟩ := splitAt?_eq_some_iff.1 split
    cases numbered : channel? number with
    | none => simp [readBluetooth, split, numbered, bind, Except.bind] at read
    | some channel =>
      cases isDevice : isDevice device with
      | false =>
        simp [readBluetooth, split, numbered, isDevice, bind, Except.bind, pure, Except.pure] at read
      | true =>
        have hexadecimal := isDevice_iff.1 isDevice
        rw [readBluetooth_of_channel hexadecimal numbered] at read
        exact .inr ⟨device, number, channel, rfl, hexadecimal, numbered, (Except.ok.inj read).symm⟩

/-! ## Hosts -/

/-- Slashes at the end can be told from what comes before them. -/
theorem withoutSlashes_eq_iff {chars kept : List Char} :
    withoutSlashes chars = kept ↔
      (∃ slashes, chars = kept ++ List.replicate slashes '/') ∧ kept.getLast? ≠ some '/' := by
  change chars.rdropWhile (· = '/') = kept ↔ _
  constructor
  · rintro rfl
    constructor
    · have slashes : chars.rtakeWhile (· = '/') =
          List.replicate (chars.rtakeWhile (· = '/')).length '/' :=
        List.eq_replicate_iff.2 ⟨rfl, fun c member => by simpa using List.mem_rtakeWhile_imp member⟩
      exact ⟨_, (slashes ▸ List.rdropWhile_append_rtakeWhile).symm⟩
    · intro last
      have some : chars.rdropWhile (· = '/') ≠ [] := fun none => by simp [none] at last
      rw [List.getLast?_eq_some_getLast some, Option.some.injEq] at last
      exact List.rdropWhile_last_not _ _ some (decide_eq_true last)
  · rintro ⟨⟨slashes, rfl⟩, ends⟩
    induction slashes with
    | zero =>
      rw [List.replicate_zero, List.append_nil, List.rdropWhile_eq_self_iff]
      intro some slash
      rw [List.getLast?_eq_some_getLast some] at ends
      exact ends (congrArg Option.some (of_decide_eq_true slash))
    | succ slashes inductionHypothesis =>
      rw [List.replicate_succ', ← List.append_assoc, List.rdropWhile_concat_pos, inductionHypothesis]
      rfl

theorem readTcp_of_host {host : List Char} (slashes : Nat) (given : host ≠ []) (plain : ':' ∉ host.tail)
    (ends : host.getLast? ≠ some '/') :
    readTcp (host ++ List.replicate slashes '/') = .ok (.tcp (String.ofList host) defaultPort) := by
  have kept := withoutSlashes_eq_iff.2 ⟨⟨slashes, rfl⟩, ends⟩
  rw [readTcp, kept]
  rcases split : splitAtLast? ':' host with _ | ⟨before, after⟩
  · simp [given]
  · obtain ⟨rfl, -⟩ := splitAtLast?_eq_some_iff.1 split
    cases before with
    | nil => simp
    | cons first rest => simp at plain

theorem readTcp_of_port {host number : List Char} {port : Nat} (slashes : Nat) (given : host ≠ [])
    (numbered : unsigned? 65536 number = some port) :
    readTcp (host ++ ':' :: number ++ List.replicate slashes '/') =
      .ok (.tcp (String.ofList host) port) := by
  have characters := plus_or_isDigit_of_unsigned? numbered
  have noColon : ':' ∉ number := fun colon => by simpa using characters ':' colon
  have ends : (host ++ ':' :: number).getLast? ≠ some '/' := fun last => by
    rw [List.getLast?_append_of_ne_nil _ (by simp)] at last
    obtain slash | slash := List.mem_cons.1 (List.mem_of_getLast? last)
    · cases slash
    · simpa using characters '/' slash
  have kept := withoutSlashes_eq_iff.2 ⟨⟨slashes, rfl⟩, ends⟩
  rw [readTcp, kept, splitAtLast?_append noColon]
  cases host with
  | nil => exact absurd rfl given
  | cons first rest => simp only [numbered]

/-- All that is read as a network address is a host, alone or with a port. -/
theorem readTcp_cases {chars : List Char} {address : Address} (read : readTcp chars = .ok address) :
    (∃ host slashes, chars = host ++ List.replicate slashes '/' ∧ host ≠ [] ∧ ':' ∉ host.tail ∧
      host.getLast? ≠ some '/' ∧ address = .tcp (String.ofList host) defaultPort) ∨
    ∃ host number port slashes, chars = host ++ ':' :: number ++ List.replicate slashes '/' ∧
      host ≠ [] ∧ unsigned? 65536 number = some port ∧ address = .tcp (String.ofList host) port := by
  obtain ⟨⟨slashes, whole⟩, ends⟩ := withoutSlashes_eq_iff.1 (Eq.refl (withoutSlashes chars))
  generalize withoutSlashes chars = kept at whole ends
  subst whole
  have kept_eq := withoutSlashes_eq_iff.2 ⟨⟨slashes, rfl⟩, ends⟩
  have given : kept ≠ [] := fun none => by
    subst none
    rw [readTcp, kept_eq] at read
    cases read
  have alone (plain : ':' ∉ kept.tail) : address = .tcp (String.ofList kept) defaultPort := by
    rw [readTcp_of_host slashes given plain ends] at read
    exact (Except.ok.inj read).symm
  rcases split : splitAtLast? ':' kept with _ | ⟨host, number⟩
  · have plain : ':' ∉ kept.tail := mt List.mem_of_mem_tail (splitAtLast?_eq_none_iff.1 split)
    exact .inl ⟨kept, slashes, rfl, given, plain, ends, alone plain⟩
  · obtain ⟨rfl, noColon⟩ := splitAtLast?_eq_some_iff.1 split
    cases host with
    | nil => exact .inl ⟨_, slashes, rfl, given, noColon, ends, alone noColon⟩
    | cons first rest =>
      cases numbered : unsigned? 65536 number with
      | none =>
        rw [readTcp, kept_eq, split] at read
        simp only [numbered, reduceCtorEq] at read
      | some port =>
        rw [readTcp_of_port slashes (by simp) numbered] at read
        exact .inr ⟨_, number, port, slashes, rfl, by simp, numbered,
          (Except.ok.inj read).symm⟩

/-! ## Addresses -/

variable {url : String} {scheme rest : List Char} {address other : Address}

theorem parse_of_bluetooth (named : InAnyCase "obex-bt://" scheme) (whole : url.toList = scheme ++ rest) :
    parse url = (readBluetooth rest).mapError (.invalidUrl url) := by
  have found : afterScheme? "obex-bt://" url.toList = some rest :=
    afterScheme?_eq_some_iff.2 ⟨scheme, named, whole⟩
  rw [parse, found]

theorem parse_of_tcp (named : InAnyCase "obex-tcp://" scheme) (whole : url.toList = scheme ++ rest) :
    parse url = (readTcp rest).mapError (.invalidUrl url) := by
  have found : afterScheme? "obex-tcp://" url.toList = some rest :=
    afterScheme?_eq_some_iff.2 ⟨scheme, named, whole⟩
  have notOther : afterScheme? "obex-bt://" url.toList = none := by
    have length : scheme.length = 11 := by simpa using congrArg List.length named
    have head : ((scheme ++ rest).take 10).map Char.toLower ≠ "obex-bt://".toList := by
      rw [List.take_append_of_le_length (by omega), List.map_take, named]
      decide
    rw [whole]
    exact if_neg head
  rw [parse, notOther, found]

/-- What is read as an address starts with one of the schemes. -/
theorem parse_cases (read : parse url = .ok address) :
    (∃ scheme rest, InAnyCase "obex-bt://" scheme ∧ url.toList = scheme ++ rest ∧
      readBluetooth rest = .ok address) ∨
    ∃ scheme rest, InAnyCase "obex-tcp://" scheme ∧ url.toList = scheme ++ rest ∧
      readTcp rest = .ok address := by
  have mapped : ∀ {answer : Except String Address},
      answer.mapError (TransportError.invalidUrl url) = .ok address → answer = .ok address := by
    rintro (_ | _) same <;> cases same
    rfl
  rw [parse] at read
  cases bluetooth : afterScheme? "obex-bt://" url.toList with
  | some rest =>
    rw [bluetooth] at read
    obtain ⟨scheme, named, whole⟩ := afterScheme?_eq_some_iff.1 bluetooth
    exact .inl ⟨scheme, rest, named, whole, mapped read⟩
  | none =>
    cases tcp : afterScheme? "obex-tcp://" url.toList with
    | some rest =>
      rw [bluetooth, tcp] at read
      obtain ⟨scheme, named, whole⟩ := afterScheme?_eq_some_iff.1 tcp
      exact .inr ⟨scheme, rest, named, whole, mapped read⟩
    | none =>
      rw [bluetooth, tcp] at read
      cases read

theorem Denotes.parse (denoted : Denotes url.toList address) : parse url = .ok address := by
  generalize whole : url.toList = chars at denoted
  cases denoted with
  | device named hexadecimal =>
    rw [parse_of_bluetooth named whole, readBluetooth_of_device hexadecimal]
    rfl
  | channel named hexadecimal written within =>
    have numbered := channel?_eq_some_iff.2 ⟨within, .inl written⟩
    rw [parse_of_bluetooth named whole, readBluetooth_of_channel hexadecimal numbered]
    rfl
  | host slashes named given plain ends =>
    rw [parse_of_tcp named whole, readTcp_of_host slashes given (mt List.mem_of_mem_tail plain) ends]
    rfl
  | port slashes named given plain written within =>
    have numbered := unsigned?_eq_some_iff.2 ⟨Nat.lt_succ_of_le within, .inl written⟩
    rw [parse_of_tcp named whole, readTcp_of_port slashes given numbered]
    rfl

theorem Tolerated.parse (tolerated : Tolerated url.toList address) : parse url = .ok address := by
  generalize whole : url.toList = chars at tolerated
  cases tolerated with
  | signedChannel named hexadecimal written within =>
    have numbered := channel?_eq_some_iff.2 ⟨within, .inr ⟨_, rfl, written⟩⟩
    rw [parse_of_bluetooth named whole, readBluetooth_of_channel hexadecimal numbered]
    rfl
  | signedPort slashes named given written within =>
    have numbered := unsigned?_eq_some_iff.2 ⟨Nat.lt_succ_of_le within, .inr ⟨_, rfl, written⟩⟩
    rw [parse_of_tcp named whole, readTcp_of_port slashes given numbered]
    rfl
  | colonBefore slashes named colon written within =>
    have numbered := unsigned?_eq_some_iff.2 ⟨Nat.lt_succ_of_le within, .inl written⟩
    rw [parse_of_tcp named whole, readTcp_of_port slashes (List.ne_nil_of_mem colon) numbered]
    rfl
  | noHost slashes named only ends =>
    rw [parse_of_tcp named whole, readTcp_of_host slashes (List.cons_ne_nil _ _) only ends]
    rfl

theorem denotes_or_tolerated (read : parse url = .ok address) :
    Denotes url.toList address ∨ Tolerated url.toList address := by
  obtain ⟨scheme, rest, named, whole, read⟩ | ⟨scheme, rest, named, whole, read⟩ := parse_cases read <;>
    rw [whole]
  · obtain ⟨hexadecimal, rfl⟩ | ⟨device, number, channel, rfl, hexadecimal, numbered, rfl⟩ :=
      readBluetooth_cases read
    · exact .inl (.device named hexadecimal)
    · obtain ⟨within, written | ⟨digits, rfl, written⟩⟩ := channel?_eq_some_iff.1 numbered
      · exact .inl (.channel named hexadecimal written within)
      · exact .inr (.signedChannel named hexadecimal written within)
  · obtain ⟨host, slashes, rfl, given, plain, ends, rfl⟩ |
      ⟨host, number, port, slashes, rfl, given, numbered, rfl⟩ := readTcp_cases read
    · by_cases colon : ':' ∈ host
      · -- A colon can only be the first character, with no host in front of it.
        cases host with
        | nil => cases colon
        | cons first host =>
          obtain rfl | later := List.mem_cons.1 colon
          · exact .inr (.noHost slashes named plain ends)
          · exact absurd later plain
      · exact .inl (.host slashes named given colon ends)
    · obtain ⟨within, written | ⟨digits, rfl, written⟩⟩ := unsigned?_eq_some_iff.1 numbered
      · by_cases colon : ':' ∈ host
        · exact .inr (.colonBefore slashes named colon written (Nat.le_of_lt_succ within))
        · exact .inl (.port slashes named given colon written (Nat.le_of_lt_succ within))
      · exact .inr (.signedPort slashes named given written (Nat.le_of_lt_succ within))

/-! ## What is tolerated -/

theorem InAnyCase.rest_eq {name : String} {first second tail other : List Char}
    (named : InAnyCase name first) (also : InAnyCase name second)
    (same : first ++ tail = second ++ other) : tail = other := by
  have lengths : first.length = second.length := by
    rw [← List.length_map Char.toLower, named, ← also, List.length_map]
  exact (List.append_inj same lengths).2

theorem Denotes.no_colon {chars : List Char} {host : String} {port : Nat}
    (denoted : Denotes chars (.tcp host port)) : ':' ∉ host.toList := by
  cases denoted with
  | host slashes named given plain ends => rwa [String.toList_ofList]
  | port slashes named given plain written within => rwa [String.toList_ofList]

theorem Denotes.unsigned_channel {device digits : List Char} {name : String} {channel : Option Nat}
    (named : InAnyCase "obex-bt://" scheme) (hexadecimal : IsDeviceText device) :
    ¬ Denotes (scheme ++ (device ++ '+' :: '+' :: digits)) (.bluetooth name channel) := by
  generalize whole : scheme ++ (device ++ '+' :: '+' :: digits) = chars
  intro denoted
  cases denoted with
  | device also other =>
    have same := also.rest_eq named whole.symm
    exact other.no_plus (by simp [same])
  | channel also other written within =>
    -- A device has no plus sign, so that the first one stands before the channel in both readings.
    have same := congrArg (splitAt? '+') (named.rest_eq also whole)
    rw [splitAt?_append hexadecimal.no_plus, splitAt?_append other.no_plus] at same
    cases same
    exact not_writes_plus written

theorem Denotes.unsigned_port {host digits : List Char} {slashes port : Nat}
    (named : InAnyCase "obex-tcp://" scheme) :
    ¬ Denotes (scheme ++ (host ++ ':' :: '+' :: digits ++ List.replicate slashes '/'))
      (.tcp (String.ofList host) port) := by
  generalize whole : scheme ++ (host ++ ':' :: '+' :: digits ++ List.replicate slashes '/') = chars
  generalize told : String.ofList host = name
  intro denoted
  cases denoted with
  | host others also given plain ends =>
    obtain rfl := String.ofList_injective told
    have same := named.rest_eq also whole
    rw [List.append_assoc] at same
    have colon : ':' ∈ List.replicate others '/' := by simp [← List.append_cancel_left same]
    cases List.eq_of_mem_replicate colon
  | @port _ _ number _ others also given plain written within =>
    obtain rfl := String.ofList_injective told
    have same := named.rest_eq also whole
    rw [List.append_assoc, List.append_assoc] at same
    cases number with
    | nil => exact written.nonempty rfl
    | cons first rest =>
      obtain ⟨rfl, -⟩ := List.cons.inj (List.cons.inj (List.append_cancel_left same)).2
      exact not_writes_plus written

/-- Nothing that is tolerated is within the grammar. -/
theorem Tolerated.not_denotes (tolerated : Tolerated url.toList address) :
    ¬ Denotes url.toList other := by
  intro denoted
  obtain rfl : address = other := Except.ok.inj (tolerated.parse.symm.trans denoted.parse)
  generalize url.toList = chars at tolerated denoted
  cases tolerated with
  | signedChannel named hexadecimal written within => exact denoted.unsigned_channel named hexadecimal
  | signedPort slashes named given written within => exact denoted.unsigned_port named
  | colonBefore slashes named colon written within => exact denoted.no_colon (by simpa using colon)
  | noHost slashes named only ends => exact denoted.no_colon (by simp)

/-- The reader takes exactly the texts of the grammar and those that it tolerates, and refuses all others
as invalid.  So it follows the grammar for just those texts that are not among the tolerated ones. -/
theorem parse_grammar (url : String) :
    (∀ address, parse url = .ok address ↔ Denotes url.toList address ∨ Tolerated url.toList address) ∧
    (∀ e, parse url = .error e → ∃ reason, e = .invalidUrl url reason) ∧
    ((∀ address, parse url = .ok address ↔ Denotes url.toList address) ↔
      ∀ address, ¬ Tolerated url.toList address) := by
  have read (address : Address) :
      parse url = .ok address ↔ Denotes url.toList address ∨ Tolerated url.toList address :=
    ⟨denotes_or_tolerated, fun told => told.elim Denotes.parse Tolerated.parse⟩
  refine ⟨read, ?_, ?_⟩
  · intro e refused
    have reasoned : ∀ answer : Except String Address,
        answer.mapError (TransportError.invalidUrl url) = .error e →
          ∃ reason, e = .invalidUrl url reason := by
      rintro (reason | _) same <;> cases same
      exact ⟨reason, rfl⟩
    exact reasoned _ refused
  · simp only [read, or_iff_left_iff_imp]
    exact forall_congr' fun address =>
      ⟨fun within tolerated => tolerated.not_denotes (within tolerated),
        fun none tolerated => absurd tolerated none⟩

/-- A port without a host, a host with a colon, and signed numbers. -/
theorem tolerated_beyond_grammar :
    (parse "obex-tcp://:6500" = .ok (.tcp ":6500" 650) ∧
      ∀ address, ¬ Denotes "obex-tcp://:6500".toList address) ∧
    (parse "obex-tcp://fe80::1" = .ok (.tcp "fe80:" 1) ∧
      ∀ address, ¬ Denotes "obex-tcp://fe80::1".toList address) ∧
    (parse "obex-tcp://phone:+80" = .ok (.tcp "phone" 80) ∧
      ∀ address, ¬ Denotes "obex-tcp://phone:+80".toList address) ∧
    parse "obex-bt://00:0A:95:9D:68:16++7" = .ok (.bluetooth "00:0A:95:9D:68:16" (some 7)) ∧
      ∀ address, ¬ Denotes "obex-bt://00:0A:95:9D:68:16++7".toList address := by
  have device : IsDeviceText "00:0A:95:9D:68:16".toList := isDevice_iff.1 (by decide)
  have noHost : Tolerated "obex-tcp://:6500".toList (.tcp ":6500" 650) :=
    .noHost 0 inAnyCase_tcp (show ':' ∉ "6500".toList by decide) (by decide)
  have colon : Tolerated "obex-tcp://fe80::1".toList (.tcp "fe80:" 1) :=
    .colonBefore 0 inAnyCase_tcp (show ':' ∈ "fe80:".toList by decide) (writes_toDigits 1) (by decide)
  have signedPort : Tolerated "obex-tcp://phone:+80".toList (.tcp "phone" 80) :=
    .signedPort 0 inAnyCase_tcp (show "phone".toList ≠ [] by decide) (writes_toDigits 80) (by decide)
  have signedChannel : Tolerated "obex-bt://00:0A:95:9D:68:16++7".toList
      (.bluetooth "00:0A:95:9D:68:16" (some 7)) :=
    .signedChannel inAnyCase_bluetooth device (writes_toDigits 7) (by decide)
  exact ⟨⟨noHost.parse, fun _ => noHost.not_denotes⟩, ⟨colon.parse, fun _ => colon.not_denotes⟩,
    ⟨signedPort.parse, fun _ => signedPort.not_denotes⟩, signedChannel.parse,
    fun _ => signedChannel.not_denotes⟩

end DataSync.Obex.Address
