import LspHost.Text.Composition
import LspHost.Url.Domain.MappingTable

/-!
# Mapping a domain

Each character of a domain stays as it is, is replaced, is left out, or makes the whole ill-formed.
Upper-case letters become lower-case ones, and letters of other widths and styles the plain ones.
What comes out is composed.
-/

namespace LspHost.Domain

inductive Fate where
  | kept
  | dropped
  | becomes (cs : List Char)
  | refused
deriving Repr, DecidableEq

/-- What becomes of the code points from `first` on, as far as they change. -/
structure MappedRun where
  first : Nat
  images : Array (Option (List Char))

def image? (word : List Char) : Option (List Char) :=
  (splitChars '.' word).mapM fun digits => (readDigits? 16 digits).map Char.ofNat

def runOfRow? (row : String) : Option MappedRun :=
  match splitChars ' ' row.toList with
  | [] => none
  | first :: words => (readDigits? 16 first).map fun n => ⟨n, (words.map image?).toArray⟩

def runs : List MappedRun :=
  domainRows.filterMap runOfRow?

def mapped? (c : Char) : Option (List Char) :=
  runs.findSome? fun run =>
    if run.first ≤ c.toNat then run.images[c.toNat - run.first]?.join else none

def fate (c : Char) : Fate :=
  if c.toNat < 0x80 then (if c.isUpper then .becomes [c.toLower] else .kept)
  else if droppedInDomain.contains c then .dropped
  else if refusedInDomain.contains c then .refused
  else match mapped? c with
    | some cs => .becomes cs
    | none => .kept

def Fate.result? (c : Char) : Fate → Option (List Char)
  | kept => some [c]
  | dropped => some []
  | becomes cs => some cs
  | refused => none

def map? (cs : List Char) : Option (List Char) :=
  (cs.mapM fun c => (fate c).result? c).map fun pieces => composed pieces.flatten

end LspHost.Domain
