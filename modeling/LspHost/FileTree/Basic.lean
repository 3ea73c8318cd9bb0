import LspHost.ClientError
import LspHost.Path.Basic

/-!
# File trees

A snapshot of a file system: what stands at each place, which directories keep what they hold to
themselves, and which place relative paths start from. A place is the list of names that lead to it
from the root, which is always a directory.
-/

namespace LspHost

/-- Names from the root down. -/
abbrev Place := List Bytes

inductive Entry where
  | file (contents : Bytes) (executable : Bool)
  | dir
  | link (target : Path)
deriving Repr, DecidableEq

namespace Entry

def isFile : Entry → Bool
  | file _ _ => true
  | _ => false

end Entry

/-- Entries in the order in which they were made. A directory that is `unlistable` may be passed
through, but the system refuses to say what is in it. -/
structure FileTree where
  entries : List (Place × Entry)
  current : Place
  unlistable : List Place := []
deriving Repr

namespace FileTree

def entry? (t : FileTree) (place : Place) : Option Entry :=
  if place = [] then some .dir
  else (t.entries.find? (·.1 = place)).map Prod.snd

def isDirAt (t : FileTree) (place : Place) : Bool :=
  t.entry? place = some .dir

def pathOf (place : Place) : Path :=
  ⟨Path.slash :: Path.joinSlash place⟩

end FileTree
end LspHost
