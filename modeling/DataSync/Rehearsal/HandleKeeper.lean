import DataSync.Session.Handle

/-!
# Handle keepers

Whoever got the handle of a session may keep it after the session has ended, and still ask the session
to do something, which then nobody hears.  A handle keeper keeps the handle of the last session of
every name.
-/

namespace DataSync

/-- The sessions that run, and the handles of sessions that have ended. -/
structure HandleKeeper where
  registry : Registry := {}
  ended : Table SessionHandle := .empty
deriving DecidableEq

namespace HandleKeeper

/-- Start a session. -/
def start (name : String) : Action HandleKeeper SyncError Unit :=
  (Registry.register name {}).within (·.registry) fun registry keeper => { keeper with registry }

/-- End a session, and say whether there was one of this name. -/
def stop (name : String) : StateM HandleKeeper Bool :=
  fun keeper => match keeper.registry.get? name with
    | none => (false, keeper)
    | some handle =>
      (true, { registry := keeper.registry.release name, ended := keeper.ended.insert name handle })

/-- Do something with the handle of a name, if there ever was one. -/
def handling {α : Type} (name : String) (action : StateM SessionHandle α) :
    StateM HandleKeeper (Option α) :=
  fun keeper => match keeper.registry.get? name, keeper.ended.get? name with
    | some handle, _ =>
      let (answer, handle) := action handle
      (some answer, { keeper with registry := ⟨keeper.registry.handles.insert name handle⟩ })
    | none, some handle =>
      let (answer, handle) := action handle
      (some answer, { keeper with ended := keeper.ended.insert name handle })
    | none, none => (none, keeper)

end HandleKeeper

end DataSync
