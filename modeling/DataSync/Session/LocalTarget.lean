import DataSync.Local.Message
import DataSync.Session.Config

/-!
# Local targets

A local URL such as `local://@phone` names a context on the same machine.  The child that stands for
the other side is told to synchronize the sources from its point of view: what is sent there is
received here.
-/

namespace DataSync.SyncConfig

/-- The scheme of local URLs. -/
def localScheme : String := "local://"

/-- The context that a local URL names. -/
def localContext (url : String) : Except SyncError String :=
  match (localScheme ++ "@").toList.isPrefixOf url.toList with
  | false => .error (.config (url ++ ": expected local://@<context>"))
  | true =>
    let context := url.toList.drop (localScheme.toList.length + 1)
    if context.isEmpty || context.contains '/' || context.contains '@' then
      .error (.config (url ++ ": invalid context '" ++ String.ofList context ++ "'"))
    else .ok (String.ofList context)

/-- A source as the child sees it. -/
def localSource (source : SourceConfig) : Local.SourceRequest :=
  { name := source.name, mode := source.mode.inverted.name }

/-- What the child for a context is told to do.  It asks for a password of its own if this side would
have to ask for one. -/
def localRequest (config : SyncConfig) (context : String) : Local.StartSync :=
  { config := "target-config@" ++ context
    parentConfig := config.name
    sources := (config.sources.filter (·.mode.isEnabled)).map localSource
    username := config.username
    password := if config.password = askedPassword then "" else config.password }

end DataSync.SyncConfig
