import DataSync.Proofs.Obex.ClosedAgents
import DataSync.Proofs.Obex.Responses
import DataSync.Proofs.Obex.Streams

/-!
# Contacts with peers

Which peers an agent turns to, and what it sends them.  Peers with a list of the contacts do what they
did without one, so that the list shows what the agent does over the peers alone.  All that an exchange
does is with one peer, and it sends the packets of the message, one after the other, as long as they
are answered as wanted.
-/

namespace DataSync.Obex

open DataSync.Action

/-- Something that is done to a peer within reach. -/
inductive Contact where
  /-- The channel of a device is asked for. -/
  | searched (device : String)
  /-- A link is made, or tried to. -/
  | called (address : Address)
  /-- Octets are sent over the link made last, if there is one. -/
  | told (address : Option Address) (octets : Bytes)
deriving DecidableEq

def Contact.address? : Contact → Option Address
  | searched device => some (.bluetooth device none)
  | called address => some address
  | told address _ => address

def Contact.octets? : Contact → Option Bytes
  | told _ octets => some octets
  | _ => none

/-- Peers within reach with the address of the link made last and the contacts, the latest last. -/
structure Contacted (π : Type) where
  reach : π
  linked : Option Address := none
  contacts : List Contact := []

variable {π α : Type}

namespace Contacted

def note (contact : Contact) (peers : Contacted π) : Contacted π :=
  { peers with contacts := peers.contacts ++ [contact] }

instance [Peer π] : Peer (Contacted π) where
  react octets := .of fun peers => match (Peer.react octets).on peers.reach with
    | (result, reach) => (result, { peers with reach }.note (.told peers.linked octets))
  stamina peers := Peer.stamina peers.reach

instance [Reach π] : Reach (Contacted π) where
  discover device := .of fun peers => match (Reach.discover device).on peers.reach with
    | (result, reach) => (result, { peers with reach }.note (.searched device))
  link address channel := .of fun peers => match (Reach.link address channel).on peers.reach with
    | (.ok greeting, reach) =>
      (.ok greeting, { peers with reach, linked := some address }.note (.called address))
    | (.error e, reach) => (.error e, { peers with reach }.note (.called address))

theorem recorded [Reach π] : Reach.Recorded (Contacted.reach (π := π)) where
  react octets peers := rfl
  stamina _ := rfl
  discover device peers := rfl
  link address channel peers := by
    simp only [Reach.link, on_of]
    rcases (Reach.link address channel).on peers.reach with ⟨e | greeting, reach⟩ <;> rfl

/-! ## What was sent since -/

variable {address : Address} {earlier : List Contact} {packet : Packet} {packets : List Packet}
  {peers : Contacted π}

/-- Since the earlier contacts there were some with one peer, and packets were sent to it. -/
def Tells (address : Address) (earlier : List Contact) (packets : List Packet) (peers : Contacted π) :
    Prop :=
  ∃ contacts, peers.contacts = earlier ++ contacts ∧
    (∀ contact ∈ contacts, contact.address? = some address) ∧
    (contacts.filterMap Contact.octets?).map .ok = packets.map Packet.encode

/-- The peer that packets were sent to is the one that the link made last is to. -/
def Reaches (address : Address) (earlier : List Contact) (packets : List Packet)
    (peers : Contacted π) : Prop :=
  peers.linked = some address ∧ Tells address earlier packets peers

theorem Tells.note (tells : Tells address earlier packets peers) {contact : Contact}
    (same : contact.address? = some address) (silent : contact.octets? = none) :
    Tells address earlier packets (peers.note contact) := by
  obtain ⟨contacts, all, addressed, sent⟩ := tells
  refine ⟨contacts ++ [contact], by simp [Contacted.note, all], ?_, by simpa [silent] using sent⟩
  simpa [or_imp, forall_and] using ⟨addressed, same⟩

theorem Tells.send (tells : Tells address earlier packets peers) {octets : Bytes}
    (encoded : packet.encode = .ok octets) :
    Tells address earlier (packets ++ [packet]) (peers.note (.told (some address) octets)) := by
  obtain ⟨contacts, all, addressed, sent⟩ := tells
  refine ⟨contacts ++ [.told (some address) octets], by simp [Contacted.note, all], ?_, ?_⟩
  · simpa [or_imp, forall_and] using ⟨addressed, rfl⟩
  · simp [Contact.octets?, sent, encoded]

/-! ## Transfers -/

section Transfers

variable {R : Contacted π → Prop} {terms : Terms}

theorem leads_reading (action : Action Inbox Interruption α)
    (left : ∀ peers, Tells address earlier packets peers → R peers) :
    Leads (fun wire : Wire (Contacted π) => Reaches address earlier packets wire.peer)
      (Wire.reading action) (fun _ wire => Reaches address earlier packets wire.peer)
      (fun wire => R wire.peer) :=
  have kept : Keeps (fun wire : Wire (Contacted π) => Reaches address earlier packets wire.peer)
      (Wire.reading action) := .within fun _ reaches => reaches
  kept.leads.weaken (fun _ => id) (fun _ _ => id) fun wire reaches => left wire.peer reaches.2

variable [Reach π]

theorem leads_send (left : ∀ peers some, some <+: packets ++ [packet] →
      Tells address earlier some peers → R peers) :
    Leads (fun wire : Wire (Contacted π) => Reaches address earlier packets wire.peer) packet.send
      (fun _ wire => Reaches address earlier (packets ++ [packet]) wire.peer)
      (fun wire => R wire.peer) := by
  rintro ⟨peers, inbox⟩ ⟨linked, tells⟩
  rw [Packet.send]
  cases encoded : packet.encode with
  | error fault => exact left peers packets (List.prefix_append _ _) tells
  | ok octets =>
    simp only [Wire.send, on_of, Peer.react]
    -- The contact is noted whether the octets reach the peer or not.
    have told (reach : π) : Tells address earlier (packets ++ [packet])
        ({ peers with reach }.note (.told peers.linked octets)) := by
      rw [linked]
      exact Tells.send tells encoded
    rcases (Peer.react octets).on peers.reach with ⟨e | reaction, reach⟩
    · exact left _ _ (List.prefix_refl _) (told reach)
    · exact ⟨linked, told reach⟩

theorem leads_request (left : ∀ peers some, some <+: packets ++ [packet] →
      Tells address earlier some peers → R peers) :
    Leads (fun wire : Wire (Contacted π) => Reaches address earlier packets wire.peer)
      (request packet) (fun _ wire => Reaches address earlier (packets ++ [packet]) wire.peer)
      (fun wire => R wire.peer) :=
  .bind (leads_send left) fun _ => leads_reading _ fun peers => left peers _ (List.prefix_refl _)

theorem leads_submit {more : List Packet} (left : ∀ peers some, some <+: packets ++ more →
      Tells address earlier some peers → R peers) :
    Leads (fun wire : Wire (Contacted π) => Reaches address earlier packets wire.peer)
      (submit more) (fun _ wire => Reaches address earlier (packets ++ more) wire.peer)
      (fun wire => R wire.peer) := by
  -- Each packet that is answered as wanted moves to those that were sent.
  induction more generalizing packets with
  | nil => exact .pure fun _ reaches => by simpa using reaches
  | cons packet others inductionHypothesis =>
    rw [List.append_cons] at left ⊢
    refine .bind (leads_request fun peers some first => left peers some
      (first.trans (List.prefix_append _ _))) fun reply => ?_
    split
    · exact inductionHypothesis left
    · exact .throw fun wire reaches => left wire.peer _ (List.prefix_append _ _) reaches.2

theorem leads_fetchRest (patience : Nat) (got : Partial)
    (left : ∀ peers some count, some <+: packets ++ packet :: List.replicate count (nextGet terms) →
      Tells address earlier some peers → R peers) :
    Leads (fun wire : Wire (Contacted π) => Reaches address earlier packets wire.peer)
      (fetchRest terms patience got packet)
      (fun _ wire => ∃ count, Reaches address earlier
        (packets ++ packet :: List.replicate count (nextGet terms)) wire.peer)
      (fun wire => R wire.peer) := by
  induction patience generalizing got packet packets with
  | zero =>
    exact .throw fun wire reaches => left wire.peer _ 0 (List.prefix_append _ _) reaches.2
  | succ patience inductionHypothesis =>
    have once (peers : Contacted π) (some : List Packet) (first : some <+: packets ++ [packet]) :
        Tells address earlier some peers → R peers := left peers some 0 first
    refine .bind (leads_request once) fun reply => ?_
    dsimp only
    split
    · -- The request for more is the first of the replicated ones.
      have again (count : Nat) :
          packets ++ [packet] ++ nextGet terms :: List.replicate count (nextGet terms) =
            packets ++ packet :: List.replicate (count + 1) (nextGet terms) := by
        simp [List.replicate_succ]
      have rest := @inductionHypothesis (nextGet terms) (packets ++ [packet]) (got.add reply)
        fun peers some count first => left peers some (count + 1) (again count ▸ first)
      refine rest.weaken (fun _ => id) ?_ fun _ => id
      rintro got wire ⟨count, reaches⟩
      exact ⟨count + 1, again count ▸ reaches⟩
    · split
      · exact .pure fun wire reaches => ⟨0, reaches⟩
      · exact .throw fun wire reaches => once wire.peer _ (List.prefix_refl _) reaches.2

theorem leads_fetch (mime : String)
    (left : ∀ peers some count,
      some <+: packets ++ firstGet terms mime :: List.replicate count (nextGet terms) →
      Tells address earlier some peers → R peers) :
    Leads (fun wire : Wire (Contacted π) => Reaches address earlier packets wire.peer)
      (fetch terms mime)
      (fun _ wire => ∃ count, Reaches address earlier
        (packets ++ firstGet terms mime :: List.replicate count (nextGet terms)) wire.peer)
      (fun wire => R wire.peer) := by
  refine .get_bind fun wire => .bind ?_ fun got => .pure fun _ => id
  exact (leads_fetchRest wire.patience {} left).weaken (fun _ => And.left) (fun _ _ => id) fun _ => id

end Transfers

/-! ## Exchanges -/

/-- The packets that put a message and ask for its answer if one is wanted, some times for more. -/
def carrying (terms : Terms) (message : Message) (noReply : Bool) (count : Nat) : List Packet :=
  segments terms message ++
    if noReply then [] else firstGet terms message.contentType :: List.replicate count (nextGet terms)

/-- Those packets, after a request for a connection unless there is one. -/
def exchanging (connected : Bool) (terms : Terms) (message : Message) (noReply : Bool) (count : Nat) :
    List Packet :=
  (if connected then [] else [connectRequest]) ++ carrying terms message noReply count

section Exchanges

variable {P R : Contacted π → Prop} {Q : α → Contacted π → Prop} {message : Message} {noReply : Bool}

theorem leads_onWire {action : Action (Wire (Contacted π)) Interruption α} (inbox : Inbox)
    (leads : Leads (fun wire => P wire.peer) action (fun a wire => Q a wire.peer)
      fun wire => R wire.peer) :
    Leads (fun link : Link (Contacted π) => P link.reach) (Link.onWire inbox action)
      (fun answer link => Q answer.1 link.reach) (fun link => R link.reach) := by
  intro link holds
  have led := leads { peer := link.reach, inbox } holds
  simp only [Link.onWire, on_of]
  rcases on : action.on { peer := link.reach, inbox } with ⟨e | a, wire⟩ <;> rwa [on] at led

theorem leads_reaching {action : Action (Contacted π) Interruption α} (leads : Leads P action Q R) :
    Leads (fun link : Link (Contacted π) => P link.reach) (Link.reaching action)
      (fun a link => Q a link.reach) (fun link => R link.reach) := by
  intro link holds
  have led := leads link.reach holds
  simp only [Link.reaching, on_within]
  rcases on : action.on link.reach with ⟨e | a, reach⟩ <;> rwa [on] at led

theorem leads_enter (state : ConnectState) :
    Leads (fun link : Link (Contacted π) => P link.reach) (Link.enter state)
      (fun _ link => P link.reach) (fun link => R link.reach) :=
  .alter fun _ holds => holds

variable [Reach π]

theorem leads_channelOf (left : ∀ peers, Tells address earlier [] peers → R peers) :
    Leads (fun link : Link (Contacted π) => Tells address earlier [] link.reach)
      (Link.channelOf address) (fun _ link => Tells address earlier [] link.reach)
      (fun link => R link.reach) := by
  match address with
  | .bluetooth device none =>
    have discovers : Leads (Tells (π := π) (.bluetooth device none) earlier [])
        (Reach.discover device) (fun _ => Tells (.bluetooth device none) earlier []) R := by
      intro peers tells
      simp only [Reach.discover, on_of]
      rcases (Reach.discover device).on peers.reach with ⟨e | channel, reach⟩
      · exact left _ (Tells.note tells rfl rfl)
      · exact Tells.note tells rfl rfl
    refine .bind (leads_enter _) fun _ => .bind (leads_enter _) fun _ => ?_
    refine .bind (leads_reaching discovers) fun channel => ?_
    exact .bind (leads_enter _) fun _ => .pure fun _ => id
  | .bluetooth _ (some channel) => exact .pure fun _ => id
  | .tcp _ _ => exact .pure fun _ => id

theorem leads_link (channel : Option Nat) (left : ∀ peers, Tells address earlier [] peers → R peers) :
    Leads (Tells (π := π) address earlier []) (Reach.link address channel)
      (fun _ => Reaches address earlier []) R := by
  intro peers tells
  simp only [Reach.link, on_of]
  rcases (Reach.link address channel).on peers.reach with ⟨e | greeting, reach⟩
  · exact left _ (Tells.note tells rfl rfl)
  · exact ⟨rfl, Tells.note tells rfl rfl⟩

theorem leads_connect (left : ∀ peers some, some <+: [connectRequest] →
      Tells address earlier some peers → R peers) :
    Leads (fun link : Link (Contacted π) => Tells address earlier [] link.reach) (Link.connect address)
      (fun _ link => Reaches address earlier [connectRequest] link.reach)
      (fun link => R link.reach) := by
  -- Nothing is sent before there is a link, and only the request for a connection after that.
  have begun (peers : Contacted π) : Tells address earlier [] peers → R peers :=
    left peers [] List.nil_prefix
  have asked (peers : Contacted π) : Tells address earlier [connectRequest] peers → R peers :=
    left peers _ (List.prefix_refl _)
  have request : Leads
      (fun wire : Wire (Contacted π) => Reaches address earlier [] wire.peer)
      (connectRequest.send >>= fun _ => Wire.reading (Packet.receive true))
      (fun _ wire => Reaches address earlier [connectRequest] wire.peer)
      (fun wire => R wire.peer) := .bind (leads_send left) fun _ => leads_reading _ asked
  refine .bind (leads_enter _) fun _ => .bind (leads_channelOf begun) fun channel => ?_
  refine .bind (leads_enter _) fun _ => .bind (leads_enter _) fun _ => ?_
  refine .bind (leads_reaching (leads_link channel begun)) fun greeting => ?_
  refine .bind (leads_enter _) fun _ => .bind (leads_onWire _ request) fun (reply, inbox) => ?_
  refine .bind (leads_enter _) fun _ => ?_
  dsimp only
  split
  · exact .throw fun link reaches => asked link.reach reaches.2
  · exact .bind (.modify fun _ reaches => reaches) fun _ =>
      .bind (leads_enter _) fun _ => .pure fun _ => id

theorem leads_carry (connection : Connection)
    (left : ∀ peers some count, some <+: packets ++ carrying connection.terms message noReply count →
      Tells address earlier some peers → R peers) :
    Leads (fun link : Link (Contacted π) => Reaches address earlier packets link.reach)
      (Link.carry message noReply connection)
      (fun _ link => ∃ count, Reaches address earlier
        (packets ++ carrying connection.terms message noReply count) link.reach)
      (fun link => R link.reach) := by
  have transfer : Leads
      (fun wire : Wire (Contacted π) => Reaches address earlier packets wire.peer)
      (put connection.terms message >>= fun _ =>
        if noReply then pure none
        else fetch connection.terms message.contentType >>= fun answer => pure (some answer))
      (fun _ wire => ∃ count, Reaches address earlier
        (packets ++ carrying connection.terms message noReply count) wire.peer)
      (fun wire => R wire.peer) := by
    rw [put_eq_submit]
    simp only [carrying, ← List.append_assoc] at left ⊢
    refine .bind (leads_submit fun peers some first =>
      left peers some 0 (first.trans (List.prefix_append _ _))) fun _ => ?_
    cases noReply with
    | true => exact .pure fun _ reaches => ⟨0, by simpa using reaches⟩
    | false => exact .bind (leads_fetch message.contentType left) fun _ => .pure fun _ => id
  refine .bind (leads_onWire (Q := fun _ peers => ∃ count, Reaches address earlier
    (packets ++ carrying connection.terms message noReply count) peers) _ transfer)
      fun (answer, inbox) => ?_
  exact .bind (.modify fun _ reaches => reaches) fun _ => .pure fun _ => id

/-- All that an exchange does is with the peer at its address, if the link is to that peer where there is
a connection.  It sends the packets of the message, or fails after some of them. -/
theorem leads_exchange {connected : Bool}
    (left : ∀ peers terms some count, some <+: exchanging connected terms message noReply count →
      Tells address earlier some peers → R peers) :
    Leads (fun link : Link (Contacted π) => link.connection.isSome = connected ∧
        (connected = true → link.reach.linked = some address) ∧ Tells address earlier [] link.reach)
      (Link.exchange address message noReply)
      (fun _ link => ∃ terms count,
        Reaches address earlier (exchanging connected terms message noReply count) link.reach)
      (fun link => R link.reach) := by
  have carries (connection : Connection) :
      Leads (fun link : Link (Contacted π) =>
          Reaches address earlier (if connected then [] else [connectRequest]) link.reach)
        (Link.carry message noReply connection)
        (fun _ link => ∃ terms count,
          Reaches address earlier (exchanging connected terms message noReply count) link.reach)
        (fun link => R link.reach) :=
    (leads_carry connection fun peers some count => left peers _ some count).weaken (fun _ => id)
      (fun _ _ reaches => ⟨_, reaches⟩) fun _ => id
  rw [Link.exchange_eq]
  refine .get_bind fun link => ?_
  cases present : link.connection with
  | some connection =>
    refine (carries connection).weaken ?_ (fun _ _ => id) fun _ => id
    rintro _ ⟨⟨rfl, linked, tells⟩, rfl⟩
    rw [present] at linked ⊢
    exact ⟨linked rfl, tells⟩
  | none =>
    cases connected with
    | true =>
      -- There is no link that has a connection and has none.
      rintro _ ⟨⟨isSome, -⟩, rfl⟩
      rw [present] at isSome
      cases isSome
    | false =>
      have connects := leads_connect fun peers some first =>
        left peers ⟨none, 0⟩ some 0 (first.trans (List.prefix_append _ _))
      refine .bind (connects.weaken ?_ (fun _ _ => id) fun _ => id) carries
      rintro _ ⟨⟨-, -, tells⟩, -⟩
      exact tells

end Exchanges

end Contacted

/-! ## Agents -/

/-- Contacts that carry a message are all with the peer at an address.  The packets that are sent are
those of the message, or some first ones of them if it is not settled. -/
structure Carries (address : Option Address) (connected : Bool) (message : Message) (noReply : Bool)
    (settled : Prop) (contacts : List Contact) : Prop where
  address_eq : ∀ contact ∈ contacts, contact.address? = address
  packets : ∃ packets terms count,
    (contacts.filterMap Contact.octets?).map .ok = packets.map Packet.encode ∧
    packets <+: Contacted.exchanging connected terms message noReply count ∧
    (settled → packets = Contacted.exchanging connected terms message noReply count)

theorem Contacted.Tells.carries {address : Address} {earlier : List Contact} {packets : List Packet}
    {peers : Contacted π} {connected noReply : Bool} {terms : Terms} {message : Message} {count : Nat}
    {settled : Prop} (tells : Tells address earlier packets peers)
    (first : packets <+: exchanging connected terms message noReply count)
    (all : settled → packets = exchanging connected terms message noReply count) :
    ∃ contacts, peers.contacts = earlier ++ contacts ∧
      Carries (some address) connected message noReply settled contacts := by
  obtain ⟨contacts, since, addressed, sent⟩ := tells
  exact ⟨contacts, since, addressed, packets, terms, count, sent, first, all⟩

theorem Carries.with_iff {address other : Option Address} {connected noReply : Bool} {message : Message}
    {settled : Prop} {contacts : List Contact}
    (carries : Carries address connected message noReply settled contacts) :
    (∀ contact ∈ contacts, contact.address? = other) ↔ contacts = [] ∨ address = other := by
  constructor
  · intro others
    refine or_iff_not_imp_left.2 fun some => ?_
    obtain ⟨contact, member⟩ := List.exists_mem_of_ne_nil contacts some
    exact (carries.address_eq contact member).symm.trans (others contact member)
  · rintro (rfl | rfl)
    · exact List.forall_mem_nil _
    · exact carries.address_eq

def contacted (reach : π) : ObexAgent (Contacted π) :=
  { link := { reach := { reach } } }

namespace ObexAgent

open Contacted

/-- An agent that has an address if it has a URL, and whose connection is to the peer there. -/
structure Anchored (agent : ObexAgent (Contacted π)) : Prop where
  address : agent.core.url.isSome = true → agent.address.isSome = true
  linked : agent.link.connection.isSome = true → agent.link.reach.linked = agent.address

theorem anchored_contacted (reach : π) : (contacted reach).Anchored :=
  ⟨by simp [contacted], by simp [contacted]⟩

variable [Reach π] {agent : ObexAgent (Contacted π)}

/-- An exchange that is waited for is all with the peer at the address of the agent, and the agent has a
connection to that peer or none afterwards. -/
theorem Anchored.wait_active {message : Message} {address : Address} (anchored : agent.Anchored)
    (active : agent.core.status = .active) (pending : agent.pending = some message)
    (addressed : agent.address = some address) (noReply : Bool) :
    Anchored (Agent.wait noReply agent).2 ∧ ∃ contacts,
      (Agent.wait noReply agent).2.link.reach.contacts = agent.link.reach.contacts ++ contacts ∧
      Carries (some address) agent.link.connection.isSome message noReply
        ((Agent.wait noReply agent).1 ∈ [.gotReply, .inactive]) contacts := by
  let connected := agent.link.connection.isSome
  let earlier := agent.link.reach.contacts
  -- What an exchange that failed leaves.
  let Begun (peers : Contacted π) : Prop := ∃ packets terms count,
    packets <+: exchanging connected terms message noReply count ∧ Tells address earlier packets peers
  have untold : Tells address earlier [] agent.link.reach := ⟨[], by simp [earlier], by simp, rfl⟩
  have led := agent.core.drive_leads (leads_exchange (R := Begun)
    fun peers terms packets count first tells => ⟨packets, terms, count, first, tells⟩)
    ⟨rfl, addressed ▸ anchored.linked, untold⟩
  have status : (Agent.wait noReply agent).1 =
      (agent.core.drive (Link.exchange address message noReply) agent.link).1.status := by
    simp [Agent.wait, active, pending, addressed]
  rw [status, ObexAgent.wait_active active pending addressed]
  rcases driven : agent.core.drive (Link.exchange address message noReply) agent.link
    with ⟨outcome, time, link⟩
  rw [driven] at led
  have located : ((agent.core.elapse time).finish outcome).url.isSome = true →
      agent.address.isSome = true := by
    rw [AgentCore.url_finish]
    exact anchored.address
  cases outcome with
  | completed answer =>
    obtain ⟨terms, count, linked, tells⟩ := led
    exact ⟨⟨located, fun _ => linked.trans addressed.symm⟩,
      tells.carries (List.prefix_refl _) fun _ => rfl⟩
  | failed | canceled | timedOut =>
    -- The connection is dropped, so that nothing is left to be said of the link made last.
    have begun : Begun link.reach := led.elim
      (fun ⟨_, _, tells⟩ => ⟨[], ⟨none, 0⟩, 0, List.nil_prefix, tells⟩) id
    obtain ⟨packets, terms, count, first, tells⟩ := begun
    exact ⟨⟨located, nofun⟩, tells.carries first (by simp [Outcome.status])⟩

theorem Anchored.wait (anchored : agent.Anchored) (noReply : Bool) :
    Anchored (Agent.wait noReply agent).2 := by
  have failed : Anchored { agent with core := agent.core.finish (.failed .noUrl), pending := none } :=
    ⟨anchored.address, anchored.linked⟩
  by_cases active : agent.core.status = .active
  · cases pending : agent.pending with
    | none => simpa [Agent.wait, active, pending] using failed
    | some message =>
      cases addressed : agent.address with
      | none => simpa [Agent.wait, active, pending, addressed] using failed
      | some address => exact (anchored.wait_active active pending addressed noReply).1
  · simpa [Agent.wait, active] using anchored

theorem Anchored.perform (anchored : agent.Anchored) (call : AgentCall) :
    Anchored (call.perform agent) := by
  cases call with
  | setUrl url =>
    simp only [AgentCall.perform, stateAfter, Agent.setUrl, on_of]
    split
    · exact anchored
    · refine ⟨fun _ => rfl, ?_⟩
      dsimp only
      split
      case isTrue same => exact same ▸ anchored.linked
      case isFalse => exact fun connected => by cases connected
  | send data =>
    simp only [AgentCall.perform, stateAfter, Agent.send, on_of]
    cases begun : agent.core.beginSend true with
    | error e => exact anchored
    | ok core =>
      obtain ⟨-, -, rfl⟩ := AgentCore.beginSend_eq_ok.1 begun
      exact ⟨anchored.address, anchored.linked⟩
  | cancel =>
    simp only [AgentCall.perform, Agent.cancel]
    split
    · exact ⟨anchored.address, fun connected => by cases connected⟩
    · exact anchored
  | wait noReply => exact anchored.wait noReply
  | shutdown =>
    refine ⟨anchored.address, fun connected => ?_⟩
    have unconnected : (Agent.shutdown agent).link.connection = none := agent.link.connection_leave
    rw [AgentCall.perform, unconnected] at connected
    cases connected
  | _ => exact ⟨anchored.address, anchored.linked⟩

theorem Anchored.after (anchored : agent.Anchored) (calls : List AgentCall) :
    Anchored (Agent.after calls agent) :=
  Agent.keeps_after (fun _ call anchored => anchored.perform call) anchored calls

end ObexAgent

end DataSync.Obex
