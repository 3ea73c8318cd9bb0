import LspHost.FileTree.Program
import LspHost.Launch.Executable

/-!
# The program that is asked for

The search path is that of the environment which the program starts with. A command with a slash in
it is taken from the directory that the program starts in.
-/

namespace LspHost

namespace Environment

def colon : UInt8 := 0x3A

def searchPath (e : Environment) : List Path :=
  match e.get? (Utf8.encode "PATH") with
  | some dirs => (Path.splitOn colon dirs).map Path.mk
  | none => [.ofString "/bin", .ofString "/usr/bin"]

end Environment

namespace Invocation

/-- Whether some part cannot be handed to the system. -/
def hasNul (i : Invocation) : Bool :=
  (i.program :: i.args).any (·.toList.contains '\x00') ||
    i.env.vars.any (fun (k, v) => k.contains 0 || v.contains 0) || i.dir.bytes.contains 0

def program? (i : Invocation) (t : FileTree) : Except SystemError Place :=
  if i.hasNul then .error .nulInCommand
  else (t.enter i.dir).bind fun t => t.search (.ofString i.program) i.env.searchPath

end Invocation
end LspHost
