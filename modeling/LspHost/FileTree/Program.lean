import LspHost.FileTree.Resolve

/-!
# Programs in a file tree

A program is a regular file that may be executed. A name without a slash is looked for in the
directories of a search path, one after another. A directory without the program is passed over,
also when a file of that name may not be executed, which only shows if nothing else is found.
-/

namespace LspHost.FileTree

def enter (t : FileTree) (dir : Path) : Except SystemError FileTree :=
  (t.place? dir).bind fun place =>
    if t.isDirAt place then .ok { t with current := place }
    else .error (if (t.entry? place).isSome then .notDirectory else .notFound)

def program? (t : FileTree) (p : Path) : Except SystemError Place :=
  (t.place? p).bind fun place => match t.entry? place with
    | some (.file _ true) => .ok place
    | some _ => .error .permissionDenied
    | none => .error .notFound

/-- The first program called `name` in the given directories. `failure` is what to report if there
is none, `denied` whether a file was found that may not be executed. -/
def searchFrom (t : FileTree) (name : Path) (denied : Bool) (failure : SystemError) :
    List Path → Except SystemError Place
  | [] => .error (if denied then .permissionDenied else failure)
  | dir :: rest =>
    match t.program? (dir.join name) with
    | .ok place => .ok place
    | .error .permissionDenied => searchFrom t name true failure rest
    | .error .notFound => searchFrom t name denied .notFound rest
    | .error .notDirectory => searchFrom t name denied .notDirectory rest
    | .error e => .error e

def search (t : FileTree) (name : Path) (dirs : List Path) : Except SystemError Place :=
  if name.bytes = [] then .error .notFound
  else if name.bytes.contains Path.slash then t.program? name
  else searchFrom t name false .notFound dirs

end LspHost.FileTree
