import LspHost.FileTree.Resolve

/-!
# Changing a file tree

Files are written with whatever directories they need. Renaming takes everything below along, and
removing takes it away.
-/

namespace LspHost.FileTree

inductive Edit where
  | write (path : Path) (contents : Bytes)
  | makeDir (path : Path)
  | makeLink (path target : Path)
  | rename (path newPath : Path)
  | remove (path : Path)
deriving Repr, DecidableEq

def put (t : FileTree) (place : Place) (e : Entry) : FileTree :=
  if place = [] then t
  else if (t.entry? place).isSome then
    { t with entries := t.entries.map fun (p, old) => (p, if p = place then e else old) }
  else { t with entries := t.entries ++ [(place, e)] }

def splitLast? (p : Path) : Option (Path × Bytes) :=
  match p.fileName? with
  | none => none
  | some name =>
    match p.split with
    | (first, pieces) =>
      let before := (Path.trimEnd pieces).dropLast
      match first with
      | some .root => some (⟨Path.slash :: Path.joinSlash before⟩, name)
      | _ => some (⟨Path.joinSlash ([Path.dot] :: before)⟩, name)

/-- Makes the directories that the components name, one below the other. -/
def makeDirsFrom (t : FileTree) (here : Path) : List Path.Component → FileTree
  | [] => t
  | c :: cs =>
    let next := here.join ⟨c.bytes⟩
    let t := match t.place? here, t.entryAt? next, c with
      | .ok place, .error .notFound, .name n => t.put (place ++ [n]) .dir
      | _, _, _ => t
    makeDirsFrom t next cs

def makeDirs (t : FileTree) (p : Path) : FileTree :=
  match p.components with
  | .root :: cs => makeDirsFrom t ⟨[Path.slash]⟩ cs
  | cs => makeDirsFrom t ⟨[Path.dot]⟩ cs

/-- Puts an entry at a path, following links in its last place only for what is written through
them. -/
def putAt (t : FileTree) (p : Path) (e : Entry) : FileTree :=
  match t.place? p with
  | .ok place => t.put place e
  | .error _ => match splitLast? p with
    | none => t
    | some (dir, name) => match t.place? dir with
      | .ok place => t.put (place ++ [name]) e
      | .error _ => t

def removePlace (t : FileTree) (place : Place) : FileTree :=
  { t with
    entries := t.entries.filter fun (p, _) => !place.isPrefixOf p
    unlistable := t.unlistable.filter fun p => !place.isPrefixOf p }

def movePlace (t : FileTree) (source target : Place) : FileTree :=
  let t := if source = target then t else t.removePlace target
  let move (p : Place) : Place :=
    if source.isPrefixOf p then target ++ p.drop source.length else p
  { entries := t.entries.map fun (p, e) => (move p, e)
    current := move t.current
    unlistable := t.unlistable.map move }

def apply (t : FileTree) : Edit → FileTree
  | .write p contents =>
    let t := match splitLast? p with
      | some (dir, _) => t.makeDirs dir
      | none => t
    t.putAt p (.file contents false)
  | .makeDir p => t.makeDirs p
  | .makeLink p target =>
    match splitLast? p with
    | none => t
    | some (dir, name) =>
      let t := t.makeDirs dir
      match t.place? dir with
      | .ok place =>
        if (t.entry? (place ++ [name])).isSome then t else t.put (place ++ [name]) (.link target)
      | .error _ => t
  | .rename p q =>
    match t.place? p false, splitLast? q with
    | .ok source, some (dir, name) =>
      match t.place? dir with
      | .ok place => t.movePlace source (place ++ [name])
      | .error _ => t
    | _, _ => t
  | .remove p =>
    match t.place? p false with
    | .ok place => t.removePlace place
    | .error _ => t

end LspHost.FileTree
