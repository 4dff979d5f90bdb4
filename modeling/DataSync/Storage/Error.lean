import DataSync.IoError
import DataSync.Text.Quoted

/-!
# Storage errors

What can go wrong when properties are opened, read or written.
-/

namespace DataSync

/-- A failure of a store of properties. -/
inductive StorageError where
  /-- The file or the disk refused an access. -/
  | io (cause : IoError)
  /-- A node file does not follow its grammar. -/
  | corrupted (path : String) (line : Nat) (problem : String)
  /-- Another session works with the node. -/
  | locked (path : String)
  /-- A property holds something that its reader cannot use. -/
  | invalidValue (key value expected : String)
  /-- The node takes no changes. -/
  | writeRejected (node : String)
deriving DecidableEq

namespace StorageError

/-- The kind of a failure in one word. -/
def kind : StorageError → String
  | .io _ => "Io"
  | .corrupted .. => "Corrupted"
  | .locked _ => "Locked"
  | .invalidValue .. => "InvalidValue"
  | .writeRejected _ => "WriteRejected"

/-- The access that failed, if that is what went wrong. -/
def cause? : StorageError → Option IoError
  | .io cause => some cause
  | _ => none

/-- The text that a person reads. -/
def message : StorageError → String
  | .io cause => "I/O error: " ++ cause.text
  | .corrupted path line problem =>
    "node " ++ path ++ " corrupted at line " ++ toString line ++ ": " ++ problem
  | .locked path => "node " ++ path ++ " is locked by another session"
  | .invalidValue key value expected =>
    "property " ++ key ++ ": invalid value " ++ Text.quoted value ++ ", expected " ++ expected
  | .writeRejected node => "write to node " ++ node ++ " rejected"

end StorageError

end DataSync
