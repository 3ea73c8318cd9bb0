import LspHost.FileEvent
import LspHost.FileTree.Walk
import LspHost.Selector

/-!
# Notices from a watched directory

A file system notice names what happened and the paths it happened to. A filter turns it into events
for the files that a glob picks below the watched root. A directory that appears is searched for
such files, since files written into it early may go unnoticed.
-/

namespace LspHost

inductive NoticeKind where
  | created
  | removed
  | renamedFrom
  | renamedTo
  | renamedBoth
  | renamed
  | modified
  | other
deriving Repr, DecidableEq

structure Notice where
  kind : NoticeKind
  paths : List Path
deriving Repr, DecidableEq

namespace Notice

/-- Each path of the notice with the kind of event it stands for. The two sides of a rename are a
deletion and a creation; where they cannot be told apart, what exists was created. -/
def pathKinds (t : FileTree) (n : Notice) : List (Path × Int32) :=
  let all (kind : Int32) := n.paths.map fun p => (p, kind)
  match n.kind with
  | .created => all FileEvent.created
  | .removed => all FileEvent.deleted
  | .renamedFrom => all FileEvent.deleted
  | .renamedTo => all FileEvent.created
  | .renamedBoth =>
    match n.paths with
    | [] => []
    | p :: rest => (p, FileEvent.deleted) :: rest.map fun q => (q, FileEvent.created)
  | .renamed =>
    n.paths.map fun p => (p, if t.exists? p then FileEvent.created else FileEvent.deleted)
  | .modified => all FileEvent.changed
  | .other => []

end Notice

structure WatchFilter where
  root : Path
  glob : Glob
deriving Repr, DecidableEq

namespace WatchFilter

def ofGlob (root : Path) (pattern : String) : Except ClientError WatchFilter :=
  (compileGlob pattern).map fun glob => { root, glob }

/-- A path is judged by its part below the root, or as a whole if it is not below it. -/
def isWatched (f : WatchFilter) (p : Path) : Bool :=
  f.glob.isMatch ((p.below? f.root).getD p).bytes

def eventOf (p : Path) (kind : Int32) : Option FileEvent :=
  (Url.ofFilePath? p).map fun url => { url, kind }

def pathEvents (f : WatchFilter) (t : FileTree) (p : Path) (kind : Int32) : List FileEvent :=
  if kind = FileEvent.created ∧ t.isDir p then
    ((t.filePathsBelow p).filter f.isWatched).filterMap (eventOf · FileEvent.created)
  else if f.isWatched p then (eventOf p kind).toList
  else []

def changes (f : WatchFilter) (t : FileTree) (n : Notice) : List FileEvent :=
  (n.pathKinds t).flatMap fun (p, kind) => f.pathEvents t p kind

def batch (f : WatchFilter) (t : FileTree) (notices : List Notice) : List FileEvent :=
  FileEvent.coalesce (notices.flatMap (f.changes t))

end WatchFilter
end LspHost
