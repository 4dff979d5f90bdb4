import DataSync.Obex.Agent
import DataSync.Rehearsal.Journal

/-!
# Scripted OBEX peers

Peers within reach without any radio or network: links to them are made as scripted, and every packet
is answered by the next entry of the script for the link.
-/

namespace DataSync

/-- What a scripted peer does when a packet reaches it. -/
structure ScriptedResponse where
  bytes : Bytes := []
  /-- Whether the stream ends after this. -/
  ends : Bool := false
deriving DecidableEq

/-- How links are made. -/
inductive Linking where
  /-- As scripted, one after the other. -/
  | scripted (links : List (Except Interruption (List ScriptedResponse)))
  /-- Over TCP only, on a machine without a network. -/
  | offline

/-- Peers within reach that act as scripted. -/
structure ScriptedReach where
  /-- What asking for a channel gives, if that is possible at all. -/
  discovery : Option (Except Interruption Nat) := none
  linking : Linking := .offline
  /-- What is left of the script for the link made last. -/
  responses : List ScriptedResponse := []
  journal : Journal := []

namespace ScriptedReach

/-- The peers after one more note. -/
def note (entry : Note) (reach : ScriptedReach) : ScriptedReach :=
  { reach with journal := reach.journal ++ [entry] }

/-- Why no link to an address can be made. -/
def unreachable (address : Obex.Address) : Interruption :=
  .failed (.connect (address.text ++ ": " ++ match address with
    | .bluetooth .. => "no Bluetooth link connector configured"
    | .tcp .. => "Connection refused (os error 111)"))

instance : Peer ScriptedReach where
  react bytes := .of fun reach =>
    let reach := reach.note (.packet bytes)
    match reach.responses with
    | [] => (.ok { ends := true }, reach)
    | response :: responses =>
      (.ok { sent := response.bytes, ends := response.ends }, { reach with responses })
  stamina reach := (reach.responses.flatMap (·.bytes)).length

instance : Obex.Reach ScriptedReach where
  discover device := .of fun reach =>
    match reach.discovery with
    | some result => (result, reach.note (.discovered device))
    | none =>
      (.error (.failed (.discovery ("no Bluetooth service discovery available for " ++ device
        ++ ", give the channel explicitly"))), reach)
  link address channel := .of fun reach =>
    match reach.linking with
    | .offline => (.error (unreachable address), reach)
    | .scripted links =>
      let reach := { reach with linking := .scripted links.tail }.note (.linked address channel)
      match links.head? with
      | none => (.error (.failed (.connect "script exhausted")), reach)
      | some (.error e) => (.error e, reach)
      | some (.ok responses) => (.ok {}, { reach with responses })

end ScriptedReach

instance : Journaled ScriptedReach where
  journal reach := reach.journal

end DataSync
