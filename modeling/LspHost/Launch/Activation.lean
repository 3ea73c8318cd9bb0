import LspHost.Client.Basic
import LspHost.Launch.Locator

/-!
# Activation

Activating an extension finds its server, makes a client for it out of the configuration and starts
the client in the workspace.
-/

namespace LspHost

structure Activation where
  extension : Path
  workspace : Path
  debug : Bool := false
deriving Repr, DecidableEq

namespace Activation

def startWith (a : Activation) (config : Config) (host : Environment) (t : FileTree)
    (spawn : Invocation → Except SystemError Unit) (command : String) :
    Except ClientError Client :=
  match (config.client command a.debug).start { tree := t, root := a.workspace, host, spawn } with
  | (_, .error e) => .error e
  | (c, .ok ()) => .ok c

def startBy {m : Type → Type} [Monad m] (a : Activation) (config : Config) (host : Environment)
    (probe : Path → m Sighting) (t : FileTree)
    (spawn : Invocation → Except SystemError Unit) : m (Except ClientError Client) := do
  let command ← (Locator.ofExtension a.extension config).find host probe
  pure (a.startWith config host t spawn command)

def start (a : Activation) (config : Config) (host : Environment) (t : FileTree)
    (spawn : Invocation → Except SystemError Unit) : Except ClientError Client :=
  Id.run (a.startBy config host (fun p => pure (Locator.sight t p)) t spawn)

end Activation
end LspHost
