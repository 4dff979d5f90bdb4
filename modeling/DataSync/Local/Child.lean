import DataSync.Local.Frame

/-!
# The child

The child's side of a local synchronization, over a wire to the parent: it says that it is ready, is
told what to synchronize, answers protocol messages one by one until the parent is done, may ask for
passwords meanwhile, and reports how it ended.
-/

namespace DataSync.Local.Child

variable {π : Type} [Peer π]

/-- The next message from the parent. -/
def hear : Action (Wire π) Interruption (Option ParentMessage) :=
  Wire.reading Frame.receive

/-- The failure of a child that was told something else than it had to be. -/
def unexpected (wanted : String) (got : ParentMessage) : Interruption :=
  disorder ("expected " ++ wanted ++ " from parent, got " ++ got.kind)

/-- Say that the child is ready. -/
def ready : Action (Wire π) Interruption Unit :=
  Frame.send ChildMessage.ready

/-- Be told what to synchronize. -/
def start : Action (Wire π) Interruption StartSync := do
  match ← hear with
  | some (.startSync start) => return start
  | some other => throw (unexpected "StartSync" other)
  | none => throw (disorder "parent closed before starting the sync")

/-- The next protocol message, or nothing if the parent is done. -/
def nextMessage : Action (Wire π) Interruption (Option Message) := do
  match ← hear with
  | some (.message message) => return some message
  | some other => throw (unexpected "Message" other)
  | none => return none

/-- Answer a protocol message. -/
def reply (message : Message) : Action (Wire π) Interruption Unit :=
  Frame.send (ChildMessage.reply message)

/-- Be told a password that was asked for. -/
def hearPassword : Action (Wire π) Interruption (Option String) := do
  match ← hear with
  | some (.passwordResponse password) => return password
  | some other => throw (unexpected "PasswordResponse" other)
  | none => throw (disorder "parent closed during password request")

/-- Ask for a password. -/
def askPassword (name description : String) (key : PasswordKey) :
    Action (Wire π) Interruption (Option String) := do
  Frame.send (ChildMessage.askPassword name description key)
  hearPassword

/-- Be told whether a password is kept. -/
def hearSaved : Action (Wire π) Interruption Bool := do
  match ← hear with
  | some (.savePasswordResponse saved) => return saved
  | some other => throw (unexpected "SavePasswordResponse" other)
  | none => throw (disorder "parent closed during password request")

/-- Have a password kept. -/
def savePassword (name password : String) (key : PasswordKey) :
    Action (Wire π) Interruption Bool := do
  Frame.send (ChildMessage.savePassword name password key)
  hearSaved

/-- Report how the child ended. -/
def report (report : ChildReport) : Action (Wire π) Interruption Unit :=
  Frame.send (ChildMessage.report report)

end DataSync.Local.Child
