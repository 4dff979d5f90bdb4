import DataSync.Local.Agent
import DataSync.Rehearsal.Journal

/-!
# Scripted children

Machines on which the child of a local synchronization says what is scripted, whatever it is told, or
cannot be started at all.
-/

namespace DataSync

/-- A machine with a child that says what is scripted. -/
structure ScriptedChild where
  /-- Why the child cannot be started. -/
  spawnError : Option Interruption := none
  /-- All that the child sends. -/
  sends : Bytes := []
  /-- Whether the child stays silent after that instead of ending, until it is left alone. -/
  lingers : Bool := false
  /-- Whether nothing reaches the child. -/
  broken : Bool := false
  /-- What waiting for the end of the child gives. -/
  exit : Except Interruption (Option Int) := .ok none
  /-- What the child was told. -/
  told : List Local.ParentMessage := []
  observer : Observer := {}

namespace ScriptedChild

/-- The machine after one more note. -/
def note (entry : Note) (machine : ScriptedChild) : ScriptedChild :=
  { machine with observer := machine.observer.note entry }

/-- Something that the observer does. -/
def observing {α : Type} (action : StateM Observer α) : StateM ScriptedChild α :=
  fun machine => match action machine.observer with
    | (answer, observer) => (answer, { machine with observer })

instance : Peer ScriptedChild where
  react bytes := .of fun machine =>
    if machine.broken then (.error (.failed (.io (.ofKind .brokenPipe))), machine)
    else
      let frame : Inbox := { unread := bytes, ended := true }
      match (Local.Frame.receive (μ := Local.ParentMessage)).on frame with
      | (.ok (some message), _) => (.ok {}, { machine with told := machine.told ++ [message] })
      | _ => (.ok {}, machine)
  stamina _ := 0

instance : UserInterface ScriptedChild where
  askPassword name description key := observing (UserInterface.askPassword name description key)
  savePassword name password key := observing (UserInterface.savePassword name password key)

instance : Local.Machine ScriptedChild where
  spawn := .of fun machine =>
    let spawned := machine.note .spawned
    match machine.spawnError with
    | some e => (.error e, spawned)
    | none => (.ok { sent := machine.sends, ends := !machine.lingers }, spawned)
  hangUp := pure { ends := true }
  kill := note .killed
  reap := .of fun machine => (machine.exit, machine.note .reaped)

end ScriptedChild

instance : Journaled ScriptedChild where
  journal machine := machine.observer.journal
  told machine := machine.told

/-- A machine on which the program of a child is missing. -/
structure MissingChild where
  program : String

namespace MissingChild

instance : Journaled MissingChild where

instance : Peer MissingChild where
  react _ := throw (.failed (.io (.ofKind .brokenPipe)))
  stamina _ := 0

instance : UserInterface MissingChild where
  askPassword _ _ _ := pure none
  savePassword _ _ _ := pure false

instance : Local.Machine MissingChild where
  spawn := do
    let machine ← get
    throw (.failed (.childFailed (machine.program ++ ": " ++ IoError.noSuchFile.text)))
  hangUp := pure { ends := true }
  kill machine := machine
  reap := pure none

end MissingChild

end DataSync
