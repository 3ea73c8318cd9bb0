import LspHost.FileTree.Edit
import LspHost.Watch.Watcher

/-!
# What a watcher sees of a change

A change of the file tree touches places: some appear, some are written to, one goes away or moves
somewhere else. A watcher sees what happens to the places below its root, and names them by paths
that begin with the root it was given. A directory goes away as a whole, and so does one that moves.
-/

namespace LspHost

inductive Touch where
  | appears (place : Place)
  | written (place : Place)
  | goesAway (place : Place)
  | moves (source target : Place)
deriving Repr, DecidableEq

namespace FileTree

def newPlaces (before after : FileTree) : List Place :=
  after.entries.filterMap fun (place, _) =>
    if (before.entry? place).isNone then some place else none

def touches (before : FileTree) (e : Edit) : List Touch :=
  let after := before.apply e
  let created := (newPlaces before after).map Touch.appears
  match e with
  | .write p _ => match before.place? p with
    | .ok place => if (before.entry? place).isSome then [.written place] else created
    | .error _ => created
  | .makeDir _ => created
  | .makeLink _ _ => created
  | .rename p q => match before.place? p false, after.place? q false with
    | .ok source, .ok target => [.moves source target]
    | _, _ => []
  | .remove p => match before.place? p false with
    | .ok place => [.goesAway place]
    | .error _ => []

end FileTree

namespace Watcher

def pathTo? (w : Watcher) (t : FileTree) (place : Place) : Option Path :=
  let root := (FileTree.pathOf t.current).join w.root
  match t.place? root with
  | .ok top =>
    if place = top then some root
    else if top.isPrefixOf place then some (root.join ⟨Path.joinSlash (place.drop top.length)⟩)
    else none
  | .error _ => none

def noticeOf? (w : Watcher) (t : FileTree) : Touch → Option Notice
  | .appears place => (w.pathTo? t place).map fun p => ⟨.created, [p]⟩
  | .written place => (w.pathTo? t place).map fun p => ⟨.modified, [p]⟩
  | .goesAway place => (w.pathTo? t place).map fun p => ⟨.removed, [p]⟩
  | .moves source target =>
    match w.pathTo? t source, w.pathTo? t target with
    | some p, some q => some ⟨.renamedBoth, [p, q]⟩
    | some p, none => some ⟨.renamedFrom, [p]⟩
    | none, some q => some ⟨.renamedTo, [q]⟩
    | none, none => none

def observe (w : Watcher) (t : FileTree) (e : FileTree.Edit) : List Notice :=
  (t.touches e).filterMap (w.noticeOf? t)

def observeAll (w : Watcher) (t : FileTree) (edits : List FileTree.Edit) :
    FileTree × List Notice :=
  edits.foldl (fun (t, notices) e => (t.apply e, notices ++ w.observe t e)) (t, [])

end Watcher
end LspHost
