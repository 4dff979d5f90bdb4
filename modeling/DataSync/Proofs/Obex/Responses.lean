import DataSync.Proofs.Obex.PacketStreams
import DataSync.Proofs.Obex.Segments
import DataSync.Rehearsal.ScriptedReach
import Mathlib.Data.List.Forall2

/-!
# Answers in several responses

An answer is fetched with one request for each response, as long as the peer says that there is more.
The first part of each response goes into the answer, and the latest type that a response has.  So the
answer is all that the responses hold exactly if none of them holds more than one part.
-/

namespace DataSync.Obex

open DataSync.Action

variable {π : Type} {terms : Terms} {packet response : Packet} {responses : List Packet}

/-! ## What responses hold -/

/-- The parts of an object in a packet, in their order. -/
def Packet.parts (packet : Packet) : List Bytes :=
  packet.headers.filterMap fun
    | .body chunk | .endOfBody chunk => some chunk
    | _ => none

theorem Packet.body?_eq_head (packet : Packet) : packet.body?.map (·.1) = packet.parts.head? := by
  unfold body? parts
  induction packet.headers with
  | nil => rfl
  | cons header later inductionHypothesis => cases header <;> simp [inductionHypothesis]

/-- The first part of each response. -/
def firstParts (responses : List Packet) : Bytes :=
  responses.flatMap (·.parts.headD [])

def allParts (responses : List Packet) : Bytes :=
  responses.flatMap (·.parts.flatten)

/-- The type in the latest response that has one. -/
def latestType? (responses : List Packet) : Option String :=
  (responses.filterMap Packet.type?).getLast?

theorem length_firstParts_le (responses : List Packet) :
    (firstParts responses).length ≤ (allParts responses).length := by
  induction responses with
  | nil => exact Nat.le_refl _
  | cons response later inductionHypothesis =>
    simp only [firstParts, allParts, List.flatMap_cons, List.length_append] at inductionHypothesis ⊢
    cases response.parts with
    | nil => simpa using inductionHypothesis
    | cons first others =>
      rw [List.headD_cons, List.flatten_cons, List.length_append]
      omega

/-- The first parts are all that there is exactly if the others are empty. -/
theorem firstParts_eq_allParts_iff :
    firstParts responses = allParts responses ↔
      ∀ response ∈ responses, response.parts.tail.flatten = [] := by
  induction responses with
  | nil => simp [firstParts, allParts]
  | cons response later inductionHypothesis =>
    have split : response.parts.flatten =
        response.parts.headD [] ++ response.parts.tail.flatten := by
      cases response.parts <;> rfl
    rw [List.forall_mem_cons, ← inductionHypothesis]
    have short := length_firstParts_le later
    simp only [firstParts, allParts, List.flatMap_cons, split, List.append_assoc,
      List.append_cancel_left_eq] at short ⊢
    constructor
    · -- What the later responses add to the first parts is not longer than all that they hold.
      intro same
      have sizes := congrArg List.length same
      rw [List.length_append] at sizes
      have nothing : response.parts.tail.flatten = [] := List.eq_nil_of_length_eq_zero (by omega)
      rw [nothing, List.nil_append] at same
      exact ⟨nothing, same⟩
    · rintro ⟨nothing, same⟩
      rw [nothing, same, List.nil_append]

namespace Partial

theorem add_eq (got : Partial) (response : Packet) :
    got.add response =
      { data := got.data ++ response.parts.headD []
        contentType := response.type?.or got.contentType } := by
  have first : response.body?.elim [] (·.1) = response.parts.headD [] := by
    rw [List.headD_eq_head?_getD, ← response.body?_eq_head]
    cases response.body? <;> rfl
  rw [add, first]

theorem foldl_add (got : Partial) (responses : List Packet) :
    responses.foldl add got =
      { data := got.data ++ firstParts responses
        contentType := (latestType? responses).or got.contentType } := by
  induction responses generalizing got with
  | nil => simp [firstParts, latestType?]
  | cons response later inductionHypothesis =>
    rw [List.foldl_cons, inductionHypothesis, add_eq]
    -- A type that this response has is overridden by each one that comes later.
    cases typed : response.type? with
    | none => simp [firstParts, latestType?, typed]
    | some mime =>
      have types : (response :: later).filterMap Packet.type? =
          mime :: later.filterMap Packet.type? := List.filterMap_cons_some typed
      simp only [firstParts, latestType?, types, List.flatMap_cons, List.append_assoc,
        List.getLast?_cons, Option.some_or]
      cases (later.filterMap Packet.type?).getLast? <;> rfl

end Partial

/-! ## Requests and responses -/

def nextGet (terms : Terms) : Packet :=
  terms.address { code := Opcode.getFinal }

/-- Responses with the requests that they answer, the first of which is given. -/
def exchanges (terms : Terms) : Packet → List Packet → List (Packet × Packet)
  | _, [] => []
  | request, response :: more => (request, response) :: exchanges terms (nextGet terms) more

theorem map_fst_exchanges (request last : Packet) (responses : List Packet) :
    (exchanges terms request (responses ++ [last])).map (·.1) =
      request :: List.replicate responses.length (nextGet terms) := by
  induction responses generalizing request with
  | nil => rfl
  | cons response more inductionHypothesis =>
    rw [List.cons_append, exchanges, List.map_cons, inductionHypothesis, List.length_cons,
      List.replicate_succ]

theorem exists_encode_of_request [Peer π] {wire after : Wire π} {reply : Packet}
    (requested : (request packet).on wire = (.ok reply, after)) :
    ∃ octets, packet.encode = .ok octets := by
  rw [request, on_bind, Packet.send] at requested
  cases encoded : packet.encode with
  | ok octets => exact ⟨octets, rfl⟩
  | error fault =>
    rw [encoded] at requested
    cases requested

/-- With a tape the peer answers what it answers without one. -/
theorem Answered.taped [Reach π] {asked : List (Packet × Packet)} {wire : Wire (Taped π)}
    {after : Wire π} (answered : Answered (wire.plain Taped.reach) asked after) :
    ∃ after, Answered wire asked after := by
  generalize plain : wire.plain Taped.reach = start at answered
  induction answered generalizing wire with
  | nil => exact ⟨wire, .nil wire⟩
  | @cons packet reply _ _ _ _ first _ inductionHypothesis =>
    subst plain
    -- The plain request is the one with a tape, less the tape, so it has the same result.
    rw [mimics_request Taped.recorded.toRecorded packet wire] at first
    obtain ⟨result, same⟩ := Prod.mk.inj first
    obtain ⟨after, others⟩ := inductionHypothesis same
    exact ⟨after, .cons (Prod.ext result rfl) others⟩

theorem Packet.decode_of_encode_bare {octets : Bytes} (bare : packet.connect = none)
    (canonical : packet.Canonical) (encoded : packet.encode = .ok octets) :
    Packet.decode octets false = .ok packet := by
  simpa [bare] using Packet.decode_of_encode canonical encoded

/-- All that is sent in exchanges is what was asked for, if it belongs to the connection. -/
theorem Answered.sent [Reach π] {asked : List (Packet × Packet)} {wire after : Wire (Taped π)}
    (answered : Answered wire asked after)
    (belongs : ∀ pair ∈ asked, pair.1.Belongs terms.connectionId) :
    Sent (asked.map (·.1)) wire after := by
  induction answered with
  | nil wire => exact .refl wire
  | cons first _ inductionHypothesis =>
    obtain ⟨firstBelongs, others⟩ := List.forall_mem_cons.1 belongs
    obtain ⟨octets, encoded⟩ := exists_encode_of_request first
    have decoded := Packet.decode_of_encode_bare firstBelongs.connect_eq firstBelongs.canonical encoded
    exact (sent_request ⟨octets, encoded, decoded⟩ first).append (inductionHypothesis others)

variable {last : Packet}

/-- The rest of an answer is fetched with one request for each response. -/
theorem fetchRest_of_answered [Peer π] {wire after : Wire π} {patience : Nat} (got : Partial)
    (proceed : ∀ response ∈ responses, response.code = Response.proceed)
    (success : last.code = Response.success)
    (answered : Answered wire (exchanges terms packet (responses ++ [last])) after)
    (bounded : responses.length < patience) :
    (fetchRest terms patience got packet).on wire =
      (.ok ((responses ++ [last]).foldl Partial.add got), after) := by
  induction responses generalizing wire packet patience got with
  | nil =>
    obtain ⟨patience, rfl⟩ := Nat.exists_eq_add_one.2 bounded
    obtain _ | ⟨requested, _ | _⟩ := answered
    have ends : last.code ≠ Response.proceed := by rw [success]; decide
    rw [fetchRest, on_bind, requested]
    dsimp only
    rw [if_neg ends, if_pos success]
    rfl
  | cons response more inductionHypothesis =>
    obtain ⟨first, others⟩ := List.forall_mem_cons.1 proceed
    obtain ⟨patience, rfl⟩ := Nat.exists_eq_add_one.2 (Nat.zero_lt_of_lt bounded)
    obtain _ | ⟨requested, answered⟩ := answered
    -- The next request goes over the wire that this response left.
    have fetched := inductionHypothesis (got.add response) others answered
      (Nat.lt_of_succ_lt_succ bounded)
    rw [fetchRest, on_bind, requested]
    dsimp only
    rw [if_pos first]
    exact fetched

theorem fetch_of_answered [Peer π] {wire after : Wire π} (contentType : String)
    (proceed : ∀ response ∈ responses, response.code = Response.proceed)
    (success : last.code = Response.success)
    (answered : Answered wire (exchanges terms (firstGet terms contentType) (responses ++ [last])) after)
    (bounded : responses.length < wire.patience) :
    (fetch terms contentType).on wire =
      (.ok ⟨firstParts (responses ++ [last]),
        (latestType? (responses ++ [last])).getD contentType⟩, after) := by
  have fetched := fetchRest_of_answered {} proceed success answered bounded
  rw [Partial.foldl_add] at fetched
  rw [fetch, on_bind, on_get]
  dsimp only
  rw [on_bind, fetched]
  simp

theorem belongs_exchanges (belongs : packet.Belongs terms.connectionId) :
    ∀ pair ∈ exchanges terms packet responses, pair.1.Belongs terms.connectionId := by
  induction responses generalizing packet with
  | nil => exact List.forall_mem_nil _
  | cons response more inductionHypothesis =>
    have next : (nextGet terms).Belongs terms.connectionId := Terms.belongs_address (by simp)
    exact List.forall_mem_cons.2 ⟨belongs, inductionHypothesis next⟩

/-! ## Scripted answers -/

/-- Peers with octets in their script answer requests with the packets that these are read as. -/
theorem answered_scripted {script : List ScriptedResponse} {asked : List (Packet × Packet)}
    (read : List.Forall₂ (fun response pair => (∃ octets, pair.1.encode = .ok octets) ∧
      Packet.decode response.bytes false = .ok pair.2) script asked)
    {reach : ScriptedReach} (scripted : reach.responses = script) (ended : Bool) :
    ∃ after, Answered { peer := reach, inbox := { ended } } asked after := by
  induction read generalizing reach ended with
  | nil => exact ⟨_, .nil _⟩
  | @cons response pair others more first _ inductionHypothesis =>
    obtain ⟨⟨octets, encoded⟩, decoded⟩ := first
    have received := Packet.on_receive decoded [] (ended || response.ends)
    rw [List.append_nil] at received
    -- The request takes one response off the script, and all of its octets are read.
    let left : ScriptedReach := { reach.note (.packet octets) with responses := others }
    have requested : (request pair.1).on { peer := reach, inbox := { ended } } =
        (.ok pair.2, { peer := left, inbox := { ended := ended || response.ends } }) := by
      simp [request, on_bind, Packet.send, encoded, Wire.send, Peer.react, scripted, left,
        ScriptedReach.note, Wire.reading, on_within, Inbox.receive, received]
    obtain ⟨after, answered⟩ :=
      inductionHypothesis (show left.responses = others from rfl) (ended || response.ends)
    exact ⟨after, .cons requested answered⟩

/-! ## Getting an answer -/

/-- The answer that a peer gives in any number of responses, with any headers, is fetched to its end,
with one request for each of them.  It is made of the first part of each response and of the latest type,
so that it is all that the peer sent exactly if no response has octets in a later part. -/
theorem fetch_delivers_first_parts [Reach π] (terms : Terms) (contentType : String)
    (responses : List Packet) (last : Packet) (wire : Wire (Taped π))
    (proceed : ∀ response ∈ responses, response.code = Response.proceed)
    (success : last.code = Response.success) {left : Wire π}
    (answered : Answered (wire.plain Taped.reach)
      (exchanges terms (firstGet terms contentType) (responses ++ [last])) left)
    (bounded : responses.length < wire.patience) :
    ∃ answer after, (fetch terms contentType).on wire = (.ok answer, after) ∧
      Sent (firstGet terms contentType :: List.replicate responses.length (nextGet terms)) wire after ∧
      answer.data = firstParts (responses ++ [last]) ∧
      answer.contentType = (latestType? (responses ++ [last])).getD contentType ∧
      (answer.data = allParts (responses ++ [last]) ↔
        ∀ response ∈ responses ++ [last], response.parts.tail.flatten = []) := by
  obtain ⟨after, answered⟩ := answered.taped
  have sent := answered.sent (belongs_exchanges (Terms.belongs_firstGet contentType))
  rw [map_fst_exchanges] at sent
  exact ⟨_, after, fetch_of_answered contentType proceed success answered bounded, sent, rfl, rfl,
    firstParts_eq_allParts_iff⟩

instance : Decidable packet.Canonical :=
  inferInstanceAs (Decidable (∀ header ∈ packet.headers, header.Canonical))

def scatteredStart : List Packet :=
  [{ code := Response.proceed, headers := [.type "a", .body [97]] }, { code := Response.proceed }]

def scatteredEnd : Packet :=
  { code := Response.success, headers := [.type "b", .endOfBody [98]] }

def scatteredReach : ScriptedReach where
  responses := [{ bytes := [0x90, 0, 12, 0x42, 0, 5, 97, 0, 0x48, 0, 4, 97] },
    { bytes := [0x90, 0, 3] }, { bytes := [0xA0, 0, 12, 0x42, 0, 5, 98, 0, 0x49, 0, 4, 98] }]

theorem answered_scatteredReach : ∃ after, Answered { peer := scatteredReach }
    (exchanges ⟨some 7, 255⟩ (firstGet ⟨some 7, 255⟩ ContentType.xml)
      (scatteredStart ++ [scatteredEnd])) after :=
  answered_scripted (.cons ⟨⟨_, rfl⟩, Packet.decode_of_encode_bare rfl (by decide) rfl⟩
    (.cons ⟨⟨_, rfl⟩, Packet.decode_of_encode_bare rfl (by decide) rfl⟩
      (.cons ⟨⟨_, rfl⟩, Packet.decode_of_encode_bare rfl (by decide) rfl⟩ .nil))) rfl false

theorem fetch_of_scatteredReach :
    ∃ answer after, (fetch ⟨some 7, 255⟩ ContentType.xml).on { peer := { reach := scatteredReach } } =
        (.ok answer, after) ∧
      Sent [firstGet ⟨some 7, 255⟩ ContentType.xml, nextGet ⟨some 7, 255⟩, nextGet ⟨some 7, 255⟩]
        { peer := { reach := scatteredReach } } after ∧
      answer.data = [97, 98] ∧ answer.contentType = "b" ∧
      (answer.data = allParts (scatteredStart ++ [scatteredEnd]) ↔
        ∀ response ∈ scatteredStart ++ [scatteredEnd], response.parts.tail.flatten = []) := by
  obtain ⟨left, answered⟩ := answered_scatteredReach
  exact fetch_delivers_first_parts ⟨some 7, 255⟩ ContentType.xml scatteredStart scatteredEnd
    { peer := { reach := scatteredReach } } (by decide) rfl answered (by decide)

/-- A response with two octets, in a part each. -/
def dividedAnswer : Packet :=
  { code := Response.success, headers := [.body [97], .endOfBody [98]] }

def dividedReach : ScriptedReach where
  responses := [{ bytes := [0xA0, 0, 11, 0x48, 0, 4, 97, 0x49, 0, 4, 98] }]

/-- The second part of a response is lost, and the answer looks like a whole one. -/
theorem second_part_lost :
    ∃ after, Answered { peer := dividedReach }
        [(firstGet ⟨some 7, 255⟩ ContentType.xml, dividedAnswer)] after ∧
      (fetch ⟨some 7, 255⟩ ContentType.xml).on { peer := dividedReach } =
        (.ok ⟨[97], ContentType.xml⟩, after) ∧
      allParts [dividedAnswer] = [97, 98] := by
  obtain ⟨after, answered⟩ : ∃ after, Answered { peer := dividedReach }
      [(firstGet ⟨some 7, 255⟩ ContentType.xml, dividedAnswer)] after :=
    answered_scripted
      (.cons ⟨⟨_, rfl⟩, Packet.decode_of_encode_bare rfl (by decide) rfl⟩ .nil) rfl false
  have noMore : ∀ response ∈ ([] : List Packet), response.code = Response.proceed := by simp
  exact ⟨after, answered, fetch_of_answered ContentType.xml noMore rfl answered (by decide), rfl⟩

end DataSync.Obex
