import LspHost.Json.Writer
import LspHost.Launch.Locator

/-!
# What would be started

The server command for an extension, as a line of its own or as part of a report that also names the
candidates. A report has to be text, so there is none if a path in it is not.
-/

namespace LspHost

namespace Executable

def envJson (x : Executable) : Json :=
  .obj (x.env.vars.map fun (k, v) => (Utf8.decodeLossy k, .str (Utf8.decodeLossy v)))

def toJson (x : Executable) : Json :=
  .obj [("command", .str x.command), ("args", .arr (x.args.map .str)), ("env", x.envJson),
    ("inherit_env", .bool x.inheritEnv)]

end Executable

def ServerOptions.toJson (o : ServerOptions) : Json :=
  .obj [("run", o.run.toJson), ("debug", o.debug.toJson)]

structure Resolution where
  extension : Path
  release : Path
  debug : Path
  server : ServerOptions
deriving Repr, DecidableEq

namespace Resolution

def ofCommand (config : Config) (extension : Path) (command : String) : Resolution :=
  let l := Locator.ofExtension extension config
  { extension, release := l.release, debug := l.debug, server := config.serverOptions command }

def resolve (config : Config) (extension : Path) (host : Environment) (t : FileTree) :
    Resolution :=
  ofCommand config extension ((Locator.ofExtension extension config).resolve host t)

def line (r : Resolution) : String :=
  r.server.run.command ++ "\n"

def pathJson? (p : Path) : Option Json :=
  (Utf8.decode? p.bytes).map Json.str

def report? (r : Resolution) : Option Json := do
  some (.obj [
    ("extension_path", ← pathJson? r.extension),
    ("candidates", .obj [("release", ← pathJson? r.release), ("debug", ← pathJson? r.debug)]),
    ("server", r.server.toJson)])

def reportText? (r : Resolution) : Option String :=
  r.report?.map fun j => j.sorted.indented ++ "\n"

end Resolution
end LspHost
