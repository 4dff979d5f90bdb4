import DataSync.Basic

/-!
# Messages

What a transport carries: octets with the name of their type.
-/

namespace DataSync

/-- A message of a synchronization protocol. -/
structure Message where
  data : Bytes
  contentType : String
deriving DecidableEq

namespace ContentType

/-- Protocol messages in XML. -/
def xml : String := "application/vnd.syncml+xml"

/-- Protocol messages in binary XML. -/
def wbxml : String := "application/vnd.syncml+wbxml"

end ContentType

end DataSync
