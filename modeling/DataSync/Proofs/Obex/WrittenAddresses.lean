import DataSync.Proofs.Obex.AddressGrammar
import DataSync.Proofs.Transport.HandedOver

/-!
# Written addresses

The written form of an address is read as this address again, in whatever form it was given: a device in
capital letters, and a host with a port even if none was given.  So an agent that is pointed at a peer by
one form stays with the peer, and with the connection to it, when it is pointed there by the other.
-/

namespace DataSync.Obex

open DataSync.Action DataSync.Text

namespace Address

/-! ## Written forms -/

theorem IsHexDigit.toUpper {c : Char} (digit : IsHexDigit c) : IsHexDigit c.toUpper := by
  have some := isSome_hexDigit?.2 digit
  have all : ∀ n < 128, (hexDigit? (Char.ofNat n)).isSome = true →
      (hexDigit? (Char.ofNat n).toUpper).isSome = true := by decide
  have found := all c.toNat (toNat_lt_of_hexDigit? some)
  rw [Char.ofNat_toNat] at found
  exact isSome_hexDigit?.1 (found some)

/-- A device is one in capital letters, too. -/
theorem IsDeviceText.map_toUpper {device : List Char} (hexadecimal : IsDeviceText device) :
    IsDeviceText (device.map Char.toUpper) := by
  obtain ⟨groups, six, digits, rfl⟩ := hexadecimal
  refine ⟨groups.map (List.map Char.toUpper), by simpa using six, ?_, map_intercalate (by decide) groups⟩
  intro group member
  obtain ⟨original, among, rfl⟩ := List.mem_map.1 member
  obtain ⟨two, hexadecimal⟩ := digits original among
  refine ⟨by simpa using two, fun c inGroup => ?_⟩
  obtain ⟨digit, inOriginal, rfl⟩ := List.mem_map.1 inGroup
  exact (hexadecimal digit inOriginal).toUpper

theorem toUpper_toUpper (c : Char) : c.toUpper.toUpper = c.toUpper := by
  delta Char.toUpper
  split
  · rename_i lower
    split
    · rename_i lowerStill
      simp only [Char.reduceVal, UInt32.reduceSub, UInt32.le_iff_toNat_le, UInt32.toNat_add,
        UInt32.reduceToNat] at lower lowerStill
      omega
    · rfl
  · rfl

theorem deviceOf_map_toUpper (device : List Char) :
    deviceOf (device.map Char.toUpper) = deviceOf device := by
  have again : Char.toUpper ∘ Char.toUpper = Char.toUpper := funext toUpper_toUpper
  simp [deviceOf, again]

theorem parse_text_device {device : List Char} (hexadecimal : IsDeviceText device) :
    parse (bluetooth (deviceOf device) none).text = .ok (.bluetooth (deviceOf device) none) := by
  have written : (bluetooth (deviceOf device) none).text.toList =
      "obex-bt://".toList ++ device.map Char.toUpper := by simp [text, deviceOf]
  have denoted := Denotes.device inAnyCase_bluetooth hexadecimal.map_toUpper
  rw [← written, deviceOf_map_toUpper] at denoted
  exact denoted.parse

theorem parse_text_channel {device : List Char} {channel : Nat} (hexadecimal : IsDeviceText device)
    (within : 1 ≤ channel ∧ channel ≤ 30) :
    parse (bluetooth (deviceOf device) (some channel)).text =
      .ok (.bluetooth (deviceOf device) (some channel)) := by
  have written : (bluetooth (deviceOf device) (some channel)).text.toList =
      "obex-bt://".toList ++ (device.map Char.toUpper ++ '+' :: Nat.toDigits 10 channel) := by
    simp [text, deviceOf]
  have denoted := Denotes.channel inAnyCase_bluetooth hexadecimal.map_toUpper (writes_toDigits channel)
    within
  rw [← written, deviceOf_map_toUpper] at denoted
  exact denoted.parse

/-- A host is read back with whatever is in it, since the port behind it has no colon. -/
theorem parse_text_host {host : List Char} {port : Nat} (given : host ≠ []) (within : port < 65536) :
    parse (tcp (String.ofList host) port).text = .ok (.tcp (String.ofList host) port) := by
  have written : (tcp (String.ofList host) port).text.toList =
      "obex-tcp://".toList ++ (host ++ ':' :: Nat.toDigits 10 port ++ List.replicate 0 '/') := by
    simp [text]
  have numbered : unsigned? 65536 (Nat.toDigits 10 port) = some port :=
    unsigned?_eq_some_iff.2 ⟨within, .inl (writes_toDigits port)⟩
  rw [parse_of_tcp inAnyCase_tcp written, readTcp_of_port 0 given numbered]
  rfl

theorem parse_text {url : String} {address : Address} (read : parse url = .ok address) :
    parse address.text = .ok address := by
  obtain ⟨_, rest, -, -, read⟩ | ⟨_, rest, -, -, read⟩ := parse_cases read
  · obtain ⟨hexadecimal, rfl⟩ | ⟨device, number, channel, -, hexadecimal, numbered, rfl⟩ :=
      readBluetooth_cases read
    · exact parse_text_device hexadecimal
    · exact parse_text_channel hexadecimal (channel?_eq_some_iff.1 numbered).1
  · obtain ⟨host, slashes, -, given, -, -, rfl⟩ |
      ⟨host, number, port, slashes, -, given, numbered, rfl⟩ := readTcp_cases read
    · exact parse_text_host given (by decide)
    · exact parse_text_host given (unsigned?_eq_some_iff.1 numbered).1

end Address

/-! ## Agents that are pointed at a peer -/

namespace ObexAgent

variable {π : Type} [Reach π] {agent : ObexAgent π} {call : AgentCall} {address : Address} {url : String}

/-- The agent after it was pointed at the peer that it has. -/
def renamed (url : String) (agent : ObexAgent π) : ObexAgent π :=
  { agent with core := { agent.core with url := some url } }

theorem on_setUrl_of_same (parsed : Address.parse url = .ok address)
    (addressed : agent.address = some address) :
    (Agent.setUrl url).on agent = (.ok (), agent.renamed url) := by
  simp only [Agent.setUrl, on_of, parsed, addressed, if_true, renamed]

theorem address_setUrl (parsed : Address.parse url = .ok address) (agent : ObexAgent π) :
    ((Agent.setUrl url).stateAfter agent).address = some address := by
  simp only [stateAfter, Agent.setUrl, on_of, parsed]

/-- A call does not name another peer. -/
def StaysWith (address : Address) (call : AgentCall) : Prop :=
  ∀ url other, call = .setUrl url → Address.parse url = .ok other → other = address

/-- Only naming a peer makes an agent turn to it. -/
theorem address_perform (stays : StaysWith address call) (addressed : agent.address = some address) :
    (call.perform agent).address = some address := by
  cases call with
  | setUrl url =>
    cases parsed : Address.parse url with
    | error e => simpa [AgentCall.perform, stateAfter, Agent.setUrl, parsed] using addressed
    | ok other =>
      obtain rfl := stays url other rfl parsed
      exact address_setUrl parsed agent
  | send data =>
    simp only [AgentCall.perform, stateAfter, Agent.send, on_of]
    split <;> exact addressed
  | wait noReply => exact (congrArg Settings.address (settings_wait noReply agent)).trans addressed
  | cancel =>
    simp only [AgentCall.perform, Agent.cancel]
    split <;> exact addressed
  | _ => exact addressed

theorem address_after {calls : List AgentCall} (stay : ∀ call ∈ calls, StaysWith address call)
    (addressed : agent.address = some address) : (Agent.after calls agent).address = some address := by
  induction calls generalizing agent with
  | nil => exact addressed
  | cons call later inductionHypothesis =>
    obtain ⟨stays, others⟩ := List.forall_mem_cons.1 stay
    exact inductionHypothesis others (address_perform stays addressed)

/-- The written form of an address is read as this address.  So either form points an agent at the same
peer, and as long as it is pointed at no other one, the second form changes nothing but the URL that it
shows: what it has of a connection stays. -/
theorem written_form_names_same_peer (read : Address.parse url = .ok address) :
    Address.parse address.text = .ok address ∧
    ∀ (agent : ObexAgent π), ∀ first ∈ [url, address.text], ∀ second ∈ [url, address.text],
      ∃ pointed, (Agent.setUrl first).on agent = (.ok (), pointed) ∧ pointed.address = some address ∧
        (Agent.setUrl second).on agent = (.ok (), pointed.renamed second) ∧
        ∀ calls, (∀ call ∈ calls, StaysWith address call) →
          (Agent.after calls pointed).address = some address ∧
          (Agent.setUrl second).on (Agent.after calls pointed) =
            (.ok (), (Agent.after calls pointed).renamed second) := by
  have again := Address.parse_text read
  refine ⟨again, fun agent first isFirst second isSecond => ?_⟩
  have forms : ∀ form ∈ [url, address.text], Address.parse form = .ok address := by
    simp only [List.forall_mem_cons]
    exact ⟨read, again, nofun⟩
  have points := address_setUrl (forms first isFirst) agent
  refine ⟨(Agent.setUrl first).stateAfter agent, ?_, points, ?_, fun calls stay => ?_⟩
  · simp only [stateAfter, Agent.setUrl, on_of, forms first isFirst]
  · simp only [stateAfter, Agent.setUrl, on_of, forms first isFirst, forms second isSecond, renamed]
  · have still := address_after stay points
    exact ⟨still, on_setUrl_of_same (forms second isSecond) still⟩

/-- A peer that is named by a scheme in capital letters, without a port, and then as it is written. -/
theorem connection_kept_by_written_form :
    Address.parse "OBEX-TCP://phone.local/" = .ok (.tcp "phone.local" 650) ∧
    ∃ pointed : ObexAgent ScriptedReach,
      (Agent.setUrl "OBEX-TCP://phone.local/").on { link := { reach := taking } } = (.ok (), pointed) ∧
      (Agent.after [.send [120], .wait false] pointed).link.connection.isSome = true ∧
      (Agent.setUrl "obex-tcp://phone.local:650").on (Agent.after [.send [120], .wait false] pointed) =
        (.ok (), (Agent.after [.send [120], .wait false] pointed).renamed
          "obex-tcp://phone.local:650") := by
  have read : Address.parse "OBEX-TCP://phone.local/" = .ok (.tcp "phone.local" 650) := by rfl
  obtain ⟨pointed, first, -, -, later⟩ := (written_form_names_same_peer read).2
    ({ link := { reach := taking } } : ObexAgent ScriptedReach)
    "OBEX-TCP://phone.local/" (by simp) "obex-tcp://phone.local:650" (by decide)
  obtain ⟨-, second⟩ := later [.send [120], .wait false] (by simp [StaysWith])
  have reached : (Agent.setUrl "OBEX-TCP://phone.local/").stateAfter
      ({ link := { reach := taking } } : ObexAgent ScriptedReach) = pointed := congrArg Prod.snd first
  subst reached
  exact ⟨read, _, first, by decide +kernel, second⟩

end ObexAgent

end DataSync.Obex
