import DataSync.Source.Revision
import DataSync.Storage.Error

/-!
# Source errors

What can go wrong with the items of a source.  Some failures concern one item; the others make the
whole source unusable for the session.
-/

namespace DataSync

/-- A failure of a source or of one of its items. -/
inductive SourceError where
  /-- The revisions could not be kept. -/
  | storage (cause : StorageError)
  /-- A file refused an access. -/
  | io (cause : IoError)
  /-- There is no such item. -/
  | notFound (luid : Luid)
  /-- The item cannot be stored. -/
  | invalidItem (luid : Luid) (reason : String)
  /-- The backend of a source gives its own reason. -/
  | backend (source reason : String) (fatal : Bool)
  /-- The source is not open. -/
  | notOpen (source : String)
  /-- All numeric identifiers are used up. -/
  | idSpaceExhausted
deriving DecidableEq

namespace SourceError

/-- The kind of a failure in one word. -/
def kind : SourceError → String
  | storage _ => "Storage"
  | io _ => "Io"
  | notFound _ => "NotFound"
  | invalidItem .. => "InvalidItem"
  | backend .. => "Backend"
  | notOpen _ => "NotOpen"
  | idSpaceExhausted => "IdSpaceExhausted"

/-- The access to a file that failed, if that is what went wrong. -/
def cause? : SourceError → Option IoError
  | storage cause => cause.cause?
  | io cause => some cause
  | _ => none

/-- The text that a person reads. -/
def message : SourceError → String
  | storage cause => "revision store: " ++ cause.message
  | io cause => "I/O error: " ++ cause.text
  | notFound luid => "item " ++ luid ++ " not found"
  | invalidItem luid reason => "item " ++ luid ++ ": " ++ reason
  | backend source reason _ => source ++ ": " ++ reason
  | notOpen source => "source " ++ source ++ " is not open"
  | idSpaceExhausted => "item ID space exhausted"

/-- Whether the source as a whole is unusable. -/
def isFatal : SourceError → Bool
  | storage _ | io _ | notOpen _ | idSpaceExhausted => true
  | backend _ _ fatal => fatal
  | notFound _ | invalidItem _ _ => false

end SourceError

end DataSync
