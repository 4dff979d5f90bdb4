import DataSync.Local.Agent
import DataSync.Local.Child
import DataSync.Rehearsal.Journal
import DataSync.Rehearsal.Recorder
import DataSync.Text.Quoted

/-!
# Child programs

Machines on which the child of a local synchronization is a small program over the child's side of the
wire.  The program runs whenever something reaches it, until it waits for more; a step that has to
wait starts again with all that is there then.
-/

namespace DataSync

open Local (StartSync ChildReport)

/-- A step of a child program. -/
inductive ChildStep where
  | ready
  | start
  | next
  | reply (message : Message)
  /-- Answer with what the child was told to synchronize. -/
  | replyStart
  | ask
  | hearPassword
  | save
  | hearSaved
  /-- Answer with the password that is remembered. -/
  | replyPassword
  /-- Answer every message with itself in upper case, until the parent is done. -/
  | shout
  | report (report : ChildReport)
  | fail
  | hang
deriving DecidableEq

/-- A child that runs a program. -/
structure ChildProgram where
  steps : List ChildStep := []
  inbox : Inbox := {}
  start : StartSync := {}
  password : Option String := none
  /-- The exit code, once the program has ended. -/
  exit : Option Int := none

namespace ChildProgram

/-- What the child is asked to answer about what it was told to synchronize. -/
def startText (start : StartSync) : String :=
  let sources := start.sources.map fun source => source.name ++ "=" ++ source.mode
  "|".intercalate
    [start.config, start.parentConfig, start.username, start.password, ",".intercalate sources]

/-- The text of a password that may be missing. -/
def passwordText : Option String → String
  | none => "password=None"
  | some password => "password=Some(" ++ Text.quoted password ++ ")"

/-- A message of plain text. -/
def plain (text : String) : Message :=
  ⟨Bytes.ofText text, "text/plain"⟩

/-- An octet as an ASCII letter in upper case, if it is one. -/
def upper (octet : UInt8) : UInt8 :=
  if 97 ≤ octet ∧ octet ≤ 122 then octet - 32 else octet

/-- The key and the name under which the child looks for passwords. -/
def key (start : StartSync) : PasswordKey :=
  { user := start.username, server := start.parentConfig }

/-- The steps that a step consists of, each of which either speaks or listens. -/
def parts : ChildStep → List ChildStep
  | .ask => [.ask, .hearPassword]
  | .save => [.save, .hearSaved]
  | step => [step]

/-- The child that runs a program. -/
def ofSteps (steps : List ChildStep) : ChildProgram :=
  { steps := steps.flatMap parts }

/-- Take one step; the result says what remains to be done before the following ones, and what the
child remembers then. -/
def take (child : ChildProgram) (step : ChildStep) :
    Action (Wire Recorder) Interruption (List ChildStep × ChildProgram) := do
  match step with
  | .ready => Local.Child.ready; return ([], child)
  | .start => return ([], { child with start := ← Local.Child.start })
  | .next => let _ ← Local.Child.nextMessage; return ([], child)
  | .reply message => Local.Child.reply message; return ([], child)
  | .replyStart => Local.Child.reply (plain (startText child.start)); return ([], child)
  | .ask =>
    Local.Frame.send
      (Local.ChildMessage.askPassword "password" child.start.config (key child.start))
    return ([], child)
  | .hearPassword => return ([], { child with password := ← Local.Child.hearPassword })
  | .save =>
    Local.Frame.send
      (Local.ChildMessage.savePassword "password" (child.password.getD "") (key child.start))
    return ([], child)
  | .hearSaved =>
    let saved ← Local.Child.hearSaved
    return ([], { child with password := some ("saved=" ++ toString saved) })
  | .replyPassword => Local.Child.reply (plain (passwordText child.password)); return ([], child)
  | .shout =>
    match ← Local.Child.nextMessage with
    | none => return ([], child)
    | some message =>
      Local.Child.reply { message with data := message.data.map upper }
      return ([.shout], child)
  | .report report => Local.Child.report report; return ([], child)
  | .fail => throw (.failed .canceled)
  | .hang => throw .stalled

/-- Run the program until it waits or ends, but take at most `patience` steps.  The result is what the
child says meanwhile. -/
def run : (patience : Nat) → ChildProgram → Bytes × ChildProgram
  | 0, child => ([], child)
  | patience + 1, child =>
    match child.steps with
    | [] => ([], { child with exit := some 0 })
    | step :: rest =>
      match (take child step).on { peer := {}, inbox := child.inbox } with
      | (.ok (again, child), wire) =>
        let (said, child) := run patience { child with steps := again ++ rest, inbox := wire.inbox }
        (wire.peer.received ++ said, child)
      | (.error .stalled, _) => ([], child)
      | (.error (.failed _), wire) => (wire.peer.received, { child with exit := some 1 })

/-- The child after something reached it, and what it does then. -/
def receive (bytes : Bytes) (ended : Bool) (child : ChildProgram) : Reaction × ChildProgram :=
  let inbox := child.inbox.receive bytes ended
  let (sent, child) :=
    run (child.steps.length + inbox.unread.length + 2) { child with inbox }
  ({ sent, ends := child.exit.isSome }, child)

end ChildProgram

/-- A machine with a child that runs a program. -/
structure ProgramMachine where
  child : ChildProgram
  /-- Whether the child was killed before it ended. -/
  killed : Bool := false
  observer : Observer := {}

namespace ProgramMachine

/-- Something that the observer does. -/
def observing {α : Type} (action : StateM Observer α) : StateM ProgramMachine α :=
  fun machine => match action machine.observer with
    | (answer, observer) => (answer, { machine with observer })

/-- The machine after something reached the child. -/
def reach (bytes : Bytes) (ended : Bool) : StateM ProgramMachine Reaction :=
  fun machine =>
    let (reaction, child) := machine.child.receive bytes ended
    (reaction, { machine with child })

instance : Peer ProgramMachine where
  react bytes := .of fun machine =>
    if machine.killed || machine.child.exit.isSome then (.error (.failed (.io (.ofKind .brokenPipe))), machine)
    else match (reach bytes false) machine with
      | (reaction, machine) => (.ok reaction, machine)
  stamina machine := machine.child.steps.length

instance : UserInterface ProgramMachine where
  askPassword name description key := observing (UserInterface.askPassword name description key)
  savePassword name password key := observing (UserInterface.savePassword name password key)

instance : Local.Machine ProgramMachine where
  spawn := .of fun machine => match (reach [] false) machine with
    | (reaction, machine) => (.ok reaction, machine)
  hangUp machine :=
    if machine.child.exit.isSome then ({ ends := true }, machine) else reach [] true machine
  kill machine := { machine with killed := machine.killed || machine.child.exit.isNone }
  reap := .view fun machine => if machine.killed then none else machine.child.exit

end ProgramMachine

instance : Journaled ProgramMachine where
  journal machine := machine.observer.journal

end DataSync
