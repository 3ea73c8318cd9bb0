import LspHost.CommandLine.Arguments
import LspHost.CommandLine.Failure
import LspHost.CommandLine.Resolution

/-!
# The program

Arguments, environment and files come from the system here, and everything that is decided about
them is decided elsewhere. Server processes are not started from here, so `run` goes as far as the
server it would start.
-/

namespace LspHost.Main

def say (text : String) : IO Unit := do
  let out ← IO.getStdout
  out.putStr text
  out.flush

def complain (f : Failure) : IO UInt32 := do
  IO.eprintln ("\n".intercalate f.lines)
  return 1

def refuse (r : CommandLine.Refusal) : IO UInt32 := do
  say r.output
  return r.code.toUInt32

def systemError : IO.Error → SystemError
  | .permissionDenied .. => .permissionDenied
  | .inappropriateType .. => .notDirectory
  | _ => .notFound

def sight (p : Path) : IO Sighting := do
  try
    let _ ← IO.FS.realPath p.text
    return .present
  catch
    | .noFileOrDirectory .. => return .absent
    | _ => return .unknown

def homeDirectory : IO Path := do
  let self ← IO.appPath
  return ((Path.ofString self.toString).parent?).getD (.ofString ".")

/-- The host's environment as far as the given names go. -/
def environment (names : List String) : IO Environment :=
  names.foldlM (fun e name => do
    match ← IO.getEnv name with
    | some value => return e.insert (Utf8.encode name) (Utf8.encode value)
    | none => return e) .empty

def resolution (extension : Option Path) : IO Resolution := do
  let config : Config := {}
  let extension ← match extension with
    | some p => pure p
    | none => homeDirectory
  let host ← environment [config.serverPathEnv]
  let command ← (Locator.ofExtension extension config).find host sight
  return .ofCommand config extension command

def resolve (extension : Option Path) (json : Bool) : IO UInt32 := do
  let r ← resolution extension
  if json then
    match r.reportText? with
    | some text => say text; return 0
    | none => return 101
  else
    say r.line
    return 0

def run (extension : Option Path) (workspace : Path) : IO UInt32 := do
  match ← (IO.FS.realPath workspace.text).toBaseIO with
  | .error e => complain (.workspace workspace (systemError e))
  | .ok _ =>
    let r ← resolution extension
    complain (.activation (.serverStartFailed
      ("failed to spawn '" ++ r.server.run.command ++ "': not supported")))

def perform (line : CommandLine) : IO UInt32 := do
  match CommandLine.levelOf? line.logLevel with
  | none => complain (.unknownLevel line.logLevel)
  | some _ => match line.command with
    | .resolve extension json => resolve extension json
    | .run extension workspace _ _ => run extension workspace

end LspHost.Main

open LspHost in
def main (args : List String) : IO UInt32 := do
  match CommandLine.ofArguments (args.map Utf8.encode) with
  | .ok line => Main.perform line
  | .error r => Main.refuse r
