import LspHost.FileTree.Basic

/-!
# Where a path leads

A path is followed piece by piece. Symbolic links on the way are replaced by their targets, at most
forty of them; a link in the last place is followed too, unless the link itself is asked for. The
place that is reached is the canonical form of the path. A path that is handed over as a whole may
only be so long: the path itself where it is looked up, and that of every place on the way where its
canonical form is made up.
-/

namespace LspHost.FileTree

def maxLinks : Nat := 40
def maxName : Nat := 255
def maxPath : Nat := 4096

/-- How far a path can be followed without replacing a link. -/
inductive Stride where
  | arrived (place : Place)
  | link (dir : Place) (target : Path) (rest : List Bytes)
  | failed (e : SystemError)
deriving Repr, DecidableEq

/-- How a path is followed: whether a link in the last place is, and whether every place on the way
is looked up by a path of its own. -/
structure Manner where
  last : Bool := true
  spelled : Bool := false
deriving Repr, DecidableEq

def isTooLong (p : Path) : Bool :=
  p.bytes.length ≥ maxPath

def stride (t : FileTree) (manner : Manner) (place : Place) : List Bytes → Stride
  | [] => .arrived place
  | piece :: rest =>
    if !t.isDirAt place then
      .failed (if (t.entry? place).isSome then .notDirectory else .notFound)
    else if Path.vacant piece then stride t manner place rest
    else if piece = [Path.dot, Path.dot] then stride t manner place.dropLast rest
    else if piece.length > maxName ∨ (manner.spelled ∧ isTooLong (pathOf (place ++ [piece]))) then
      .failed .nameTooLong
    else match t.entry? (place ++ [piece]) with
      | none => .failed .notFound
      | some (.link target) =>
        if rest = [] ∧ !manner.last then .arrived (place ++ [piece])
        else .link place target rest
      | some _ => stride t manner (place ++ [piece]) rest

def follow (t : FileTree) (manner : Manner) : Nat → Place → List Bytes → Except SystemError Place
  | links, place, pieces =>
    match stride t manner place pieces with
    | .arrived place => .ok place
    | .failed e => .error e
    | .link dir target rest =>
      match links with
      | 0 => .error .tooManyLinks
      | links + 1 =>
        if target.bytes = [] then .error .notFound
        else
          follow t manner links (if target.isAbsolute then [] else dir)
            (Path.splitSlash target.bytes ++ rest)

/-- The place a path of any length leads to, whatever stands there. -/
def reach? (t : FileTree) (p : Path) (manner : Manner := {}) : Except SystemError Place :=
  if p.bytes = [] then .error .notFound
  else if p.bytes.contains 0 then .error .nulInName
  else follow t manner maxLinks (if p.isAbsolute then [] else t.current)
    (Path.splitSlash p.bytes)

/-- The place a path leads to when it is looked up as a whole, which only short paths can be. -/
def place? (t : FileTree) (p : Path) (followLast : Bool := true) : Except SystemError Place :=
  if isTooLong p ∧ !p.bytes.contains 0 then .error .nameTooLong
  else t.reach? p { last := followLast }

/-- Made up piece by piece, so that only the length of what has been made up matters. -/
def canonicalize (t : FileTree) (p : Path) : Except SystemError Path :=
  (t.reach? p { spelled := true }).map pathOf

def currentDirectory (t : FileTree) : Except SystemError Path :=
  if t.isDirAt t.current then .ok (pathOf t.current) else .error .notFound

def entryAt? (t : FileTree) (p : Path) : Except SystemError Entry :=
  (t.place? p).bind fun place => match t.entry? place with
    | some e => .ok e
    | none => .error .notFound

def exists? (t : FileTree) (p : Path) : Bool :=
  (t.entryAt? p).toBool

def isDir (t : FileTree) (p : Path) : Bool :=
  match t.entryAt? p with
  | .ok .dir => true
  | _ => false

/-- What a probe for a file learns: whether it is there, or why that is unknown. -/
def probe (t : FileTree) (p : Path) : Except SystemError Bool :=
  match t.entryAt? p with
  | .ok _ => .ok true
  | .error .notFound => .ok false
  | .error e => .error e

def readFile (t : FileTree) (p : Path) : Except SystemError Bytes :=
  (t.entryAt? p).bind fun
    | .file contents _ => .ok contents
    | _ => .error .isDirectory

end LspHost.FileTree
