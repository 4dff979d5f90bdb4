import DataSync.Obex.Session
import DataSync.Proofs.Obex.PacketRoundTrip

/-!
# Requests of a connection

What a session sends over a connection are four kinds of requests.  Each names the connection first, if
that has an identifier, and is read as it was written.
-/

namespace DataSync.Obex

variable {given : Option UInt32} {octets : Bytes} {packet : Packet}

namespace Packet

/-- A request over a connection with an identifier or without one. -/
structure Belongs (given : Option UInt32) (packet : Packet) : Prop where
  code_mem : packet.code ∈ [Opcode.put, Opcode.putFinal, Opcode.getFinal, Opcode.disconnect]
  connect_eq : packet.connect = none
  head?_iff : ∀ other, packet.headers.head? = some (.connectionId other) ↔ given = some other
  canonical : packet.Canonical

theorem Belongs.append (belongs : packet.Belongs given) {code : UInt8}
    (known : code ∈ [Opcode.put, Opcode.putFinal, Opcode.getFinal, Opcode.disconnect])
    {headers : List Header} (canonical : ∀ header ∈ headers, header.Canonical)
    (noId : ∀ other, .connectionId other ∉ headers) :
    Belongs given { packet with code, headers := packet.headers ++ headers } where
  code_mem := known
  connect_eq := belongs.connect_eq
  head?_iff other := by
    -- The first header is an old one, unless there were none; the new ones hold no identifier.
    rw [← belongs.head?_iff other]
    cases packet.headers with
    | nil => simpa using fun first => noId other (List.mem_of_mem_head? first)
    | cons => simp
  canonical header member :=
    (List.mem_append.1 member).elim (belongs.canonical header) (canonical header)

end Packet

namespace Terms

variable {terms : Terms}

theorem code_address (terms : Terms) (packet : Packet) :
    (terms.address packet).code = packet.code := by
  unfold address
  cases terms.connectionId <;> rfl

theorem filter_address (terms : Terms) (packet : Packet) {p : Header → Bool}
    (noId : ∀ id, p (.connectionId id) = false) :
    (terms.address packet).headers.filter p = packet.headers.filter p := by
  unfold address
  cases terms.connectionId with
  | none => rfl
  | some id => exact List.filter_cons_of_neg (by simp [noId id])

theorem belongs_address {code : UInt8}
    (known : code ∈ [Opcode.put, Opcode.putFinal, Opcode.getFinal, Opcode.disconnect]) :
    (terms.address { code }).Belongs terms.connectionId := by
  unfold address
  cases terms.connectionId <;>
    exact ⟨known, rfl, by simp, by simp [Packet.Canonical, Header.Canonical]⟩

theorem belongs_firstPut (message : Message) :
    (firstPut terms message).Belongs terms.connectionId :=
  have belongs : (terms.address { code := Opcode.put }).Belongs terms.connectionId :=
    belongs_address (by simp)
  belongs.append belongs.code_mem (by simp [Header.Canonical]) (by simp)

theorem belongs_firstGet (contentType : String) :
    (firstGet terms contentType).Belongs terms.connectionId :=
  have belongs : (terms.address { code := Opcode.getFinal }).Belongs terms.connectionId :=
    belongs_address (by simp)
  belongs.append belongs.code_mem (by simp [Header.Canonical]) (by simp)

end Terms

theorem Packet.Belongs.withLastPart (belongs : packet.Belongs given) (part : Bytes) :
    (withLastPart packet part).Belongs given :=
  belongs.append (by simp) (by simp [Header.Canonical]) (by simp)

theorem Packet.Belongs.withPart (belongs : packet.Belongs given) (part : Bytes) :
    (withPart packet part).Belongs given :=
  belongs.append belongs.code_mem (by simp [Header.Canonical]) (by simp)

end DataSync.Obex
