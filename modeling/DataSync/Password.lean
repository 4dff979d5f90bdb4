import DataSync.Basic
import DataSync.Text.Blank
import DataSync.Text.Numeral
import DataSync.Text.Split

/-!
# Passwords

A password is looked up under a key that says for whom and for what it is.  The person at the machine
can be asked for a password, or asked to keep one.
-/

namespace DataSync

/-- For whom and for what a password is. -/
structure PasswordKey where
  user : String := ""
  server : String := ""
  domain : String := ""
  object : String := ""
  protocol : String := ""
  authtype : String := ""
  port : UInt16 := 0
deriving DecidableEq

namespace PasswordKey

/-- The protocol in front of a URL, in lower case, and the rest. -/
def splitProtocol (url : List Char) : String × List Char :=
  match Text.splitAtText? "://".toList url with
  | some (protocol, rest) => (Text.lowerAscii (String.ofList protocol), rest)
  | none => ("", url)

/-- The server and the object on it. -/
def splitObject (rest : List Char) : List Char × String :=
  match Text.splitAt? '/' rest with
  | some (server, path) => (server, String.ofList ('/' :: path))
  | none => (rest, "")

/-- The host and the port of a server; a port that is no number below `2 ^ 16` counts as none if it
consists of digits, and as a part of the host otherwise. -/
def splitPort (server : List Char) : String × Nat :=
  match Text.splitAtLast? ':' server with
  | none => (String.ofList server, 0)
  | some (host, port) =>
    match Text.digits? port with
    | some port => (String.ofList host, if port < 65536 then port else 0)
    | none => (String.ofList server, 0)

/-- The key of a user's password for a URL. -/
def forUrl (user url : String) : PasswordKey :=
  let (protocol, rest) := splitProtocol url.toList
  let (server, object) := splitObject rest
  let (server, port) := splitPort server
  { user, server, object, protocol, port := UInt16.ofNat port }

end PasswordKey

/-- The person at the machine. -/
class UserInterface (υ : Type) where
  /-- Ask for a password; the person may decline. -/
  askPassword (name description : String) (key : PasswordKey) : StateM υ (Option String)
  /-- Have a password kept.  The answer is whether it is. -/
  savePassword (name password : String) (key : PasswordKey) : StateM υ Bool

/-- Nobody is at the machine. -/
structure NoUser where
deriving DecidableEq

instance : UserInterface NoUser where
  askPassword _ _ _ := pure none
  savePassword _ _ _ := pure false

end DataSync
