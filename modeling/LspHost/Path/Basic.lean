import LspHost.Text.Utf8

/-!
# Paths and their components

A path is a byte string in which `/` separates pieces. Empty pieces and pieces `.` name nothing,
except for a first `/` and for a first `.` of a relative path; what is left are the path's
components. Joining, the last name, the extension and the part below a directory are all read off
the pieces, and the text of a path shows bytes that belong to no character as U+FFFD.
-/

namespace LspHost

structure Path where
  bytes : Bytes
deriving Repr, DecidableEq, Inhabited

namespace Path

def slash : UInt8 := 0x2F
def dot : UInt8 := 0x2E

inductive Component where
  | root
  | current
  | parent
  | name (bytes : Bytes)
deriving Repr, DecidableEq

def ofString (s : String) : Path :=
  ⟨Utf8.encode s⟩

def text (p : Path) : String :=
  Utf8.decodeLossy p.bytes

/-- The pieces between the separators of a byte string, never none. -/
def splitOn (separator : UInt8) : Bytes → List Bytes
  | [] => [[]]
  | b :: rest =>
    if b = separator then [] :: splitOn separator rest
    else match splitOn separator rest with
      | [] => [[b]]
      | piece :: pieces => (b :: piece) :: pieces

def splitSlash (bytes : Bytes) : List Bytes :=
  splitOn slash bytes

def joinSlash : List Bytes → Bytes
  | [] => []
  | [piece] => piece
  | piece :: pieces => piece ++ slash :: joinSlash pieces

def vacant (piece : Bytes) : Bool :=
  piece = [] || piece = [dot]

def Component.ofPiece? (piece : Bytes) : Option Component :=
  if vacant piece then none
  else if piece = [dot, dot] then some .parent
  else some (.name piece)

def Component.bytes : Component → Bytes
  | root => [slash]
  | current => [dot]
  | parent => [dot, dot]
  | name n => n

/-- A path cut into the component that only a beginning can hold and the pieces after it. -/
def split (p : Path) : Option Component × List Bytes :=
  match splitSlash p.bytes with
  | [] => (none, [])
  | [piece] => if piece = [dot] then (some .current, []) else (none, [piece])
  | piece :: pieces =>
    if piece = [] then (some .root, pieces)
    else if piece = [dot] then (some .current, pieces)
    else (none, piece :: pieces)

def components (p : Path) : List Component :=
  p.split.1.toList ++ p.split.2.filterMap Component.ofPiece?

def isAbsolute (p : Path) : Bool :=
  p.bytes.head? = some slash

/-- `q` itself if it is absolute, otherwise `q` below `p`. -/
def join (p q : Path) : Path :=
  if q.isAbsolute then q
  else if p.bytes = [] ∨ p.bytes.getLast? = some slash then ⟨p.bytes ++ q.bytes⟩
  else ⟨p.bytes ++ slash :: q.bytes⟩

def fileName? (p : Path) : Option Bytes :=
  match p.components.getLast? with
  | some (.name n) => some n
  | _ => none

/-- What follows the last dot of a name that has something before that dot. -/
def extensionOf? (name : Bytes) : Option Bytes :=
  let reversed := name.reverse
  match reversed.dropWhile (· ≠ dot) with
  | [] => none
  | [_] => none
  | _ => some (reversed.takeWhile (· ≠ dot)).reverse

def extension? (p : Path) : Option Bytes :=
  p.fileName?.bind extensionOf?

/-- The path without its last component, for a path that ends in a component of its own. -/
def parent? (p : Path) : Option Path :=
  match p.split with
  | (first, pieces) =>
    match pieces.reverse.dropWhile vacant with
    | [] => match first with
      | some .current => some ⟨[]⟩
      | _ => none
    | _ :: rest =>
      let before := rest.dropWhile vacant
      match first with
      | some .root => some ⟨slash :: joinSlash before.reverse⟩
      | some .current =>
        some ⟨dot :: (if before = [] then [] else slash :: joinSlash before.reverse)⟩
      | _ => some ⟨joinSlash before.reverse⟩

/-- Removes the given components from the front of the pieces, passing over vacant ones. -/
def dropComponents : List Bytes → List Component → Option (List Bytes)
  | pieces, [] => some pieces
  | [], _ :: _ => none
  | piece :: pieces, c :: cs =>
    match Component.ofPiece? piece with
    | none => dropComponents pieces (c :: cs)
    | some d => if d = c then dropComponents pieces cs else none

def trimEnd (pieces : List Bytes) : List Bytes :=
  (pieces.reverse.dropWhile vacant).reverse

/-- The part of `p` below `base`, where both are compared component by component. A `base` without
components leaves the beginning of `p` as it is. -/
def below? (p base : Path) : Option Path :=
  if base.components = [] then
    let (first, pieces) := p.split
    match first, trimEnd pieces with
    | some .root, rest => some ⟨slash :: joinSlash rest⟩
    | some _, [] => some ⟨[dot]⟩
    | some _, rest => some ⟨dot :: slash :: joinSlash rest⟩
    | none, rest => some ⟨joinSlash rest⟩
  else if p.split.1 = base.split.1 then
    (dropComponents p.split.2 (base.split.2.filterMap Component.ofPiece?)).map fun pieces =>
      ⟨joinSlash (trimEnd (pieces.dropWhile vacant))⟩
  else none

end Path
end LspHost
