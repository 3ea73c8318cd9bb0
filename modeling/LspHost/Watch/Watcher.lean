import LspHost.Text.Quoted
import LspHost.Watch.Notice

/-!
# Watchers

A watcher reports what happens below its root as long as it is there. Setting one up asks for a glob
that can be read, and for a notifier that can make a watcher and have it watch the root.
-/

namespace LspHost

structure Watcher where
  filter : WatchFilter
  receiving : Bool := true
deriving Repr, DecidableEq

namespace Watcher

def root (w : Watcher) : Path :=
  w.filter.root

/-- An empty root stands for the current directory. -/
def rootError? (t : FileTree) (root : Path) : Option String :=
  match t.entryAt? (FileTree.pathOf t.current |>.join root) with
  | .ok _ => none
  | .error .notFound => some "No path was found."
  | .error e => some e.message

end Watcher

/-- What makes watchers: why it cannot make one, and why one cannot watch a root. -/
structure Notifier where
  unavailable? : Option String := none
  refusal? : Path → Option String

def Notifier.ofTree (t : FileTree) : Notifier :=
  { refusal? := Watcher.rootError? t }

namespace Watcher

def spawnBy (notifier : Notifier) (root : Path) (glob : String) : Except ClientError Watcher := do
  let filter ← WatchFilter.ofGlob root glob
  match notifier.unavailable?, notifier.refusal? root with
  | some reason, _ => .error (.watcher reason)
  | none, some reason => .error (.watcher ("failed to watch " ++ root.text ++ ": " ++ reason))
  | none, none => .ok { filter }

def spawn (t : FileTree) : Path → String → Except ClientError Watcher :=
  spawnBy (.ofTree t)

/-- The batch to send for notices that came together; none if it is empty or nobody receives. -/
def handle (w : Watcher) (t : FileTree) (notices : List Notice) : Option (List FileEvent) :=
  match w.filter.batch t notices with
  | [] => none
  | events => if w.receiving then some events else none

def debugText (w : Watcher) : String :=
  "FileSystemWatcher \x7b root: " ++ Quoted.ofBytes w.root.bytes ++ ", .. \x7d"

end Watcher
end LspHost
