import DataSync.Rehearsal.Journal

/-!
# Scripted HTTP clients

HTTP clients without a network: one whose responses are scripted, and one that reaches nobody.
-/

namespace DataSync

/-- A client whose responses, failures and silences are scripted. -/
structure ScriptedClient where
  script : List (Except Interruption Http.Response) := []
  journal : Journal := []

instance : Http.Client ScriptedClient where
  post request := .of fun client =>
    let journal := client.journal ++ [.posted request]
    match client.script with
    | [] => (.error (.failed (.http "script exhausted")), { client with journal })
    | result :: script => (result, { script, journal })

instance : Journaled ScriptedClient where
  journal client := client.journal

/-- A client on a machine without a network and without certificates. -/
structure OfflineClient where
  tls : Http.TlsSettings := {}

namespace OfflineClient

/-- The client for settings, which reads their certificates. -/
def open? (tls : Http.TlsSettings) : Except TransportError OfflineClient :=
  if tls.certificates.isEmpty then .ok { tls } else .error (.io .noSuchFile)

/-- A URL as messages show it: without user and password, and with at least a slash as the path. -/
def shown (url : String) : String :=
  let (scheme, rest) := (Text.splitAtText? "://".toList url.toList).getD ([], url.toList)
  let server := rest.takeWhile (· ≠ '/')
  let path := rest.dropWhile (· ≠ '/')
  let host := ((Text.splitAtLast? '@' server).map (·.2)).getD server
  Text.lowerAscii (String.ofList scheme) ++ "://" ++ Text.lowerAscii (String.ofList host)
    ++ (if path.isEmpty then "/" else String.ofList path)

end OfflineClient

instance : Journaled OfflineClient where

instance : Http.Client OfflineClient where
  post request := throw (.failed (.connect
    ("error sending request for url (" ++ OfflineClient.shown request.url ++ ")")))

end DataSync
