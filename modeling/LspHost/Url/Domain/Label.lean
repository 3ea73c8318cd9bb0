import LspHost.Url.Domain.LabelTable
import LspHost.Url.Domain.Mapping
import LspHost.Url.Domain.Punycode

/-!
# Labels

What the parts of a domain between its dots must be like: no mark comes first, and the two invisible
characters that join or part letters stand only where they show. A label that begins with `xn--`
stands for the one that is written in the ASCII letters after that.
-/

namespace LspHost.Domain

def virama : Nat := 9

def nonJoiner : Char := '\u200C'
def joiner : Char := '\u200D'

/-- Whether the next letter, passing over what letters join across, is in the set or in
`joinsBoth`. -/
def meetsJoining (set : CodeSet) (cs : List Char) : Bool :=
  (cs.find? (!joinsThrough.contains ·)).any fun c => joinsBoth.contains c || set.contains c

/-- Whether the invisible characters after `before`, which is kept backwards, stand well. -/
def joinsWell (before : List Char) : List Char → Bool
  | [] => true
  | c :: rest =>
    let afterVirama := before.head?.any (Composition.combiningClass · = virama)
    (if c = joiner then afterVirama
      else if c = nonJoiner then
        afterVirama || (meetsJoining joinsAfter before && meetsJoining joinsBefore rest)
      else true) && joinsWell (c :: before) rest

/-- The longest label that is written in ASCII letters, and the longest text of one that is read. -/
def maxEncoded : Nat := 1000
def maxDecoded : Nat := 2000

def isAscii (cs : List Char) : Bool :=
  cs.all (·.toNat < 0x80)

def isWellFormed (label : List Char) : Bool :=
  isAscii label ||
    (!label.head?.any marks.contains && joinsWell [] label && label.length ≤ maxEncoded)

def marker : List Char := ['x', 'n', '-', '-']

/-- The label that ASCII letters stand for. It must be in the form in which it would be mapped, and
the letters must be needed to write it. -/
def ofAsciiLetters? (cs : List Char) : Option (List Char) :=
  if cs.getLast? = some '-' ∨ cs = [] ∨ maxDecoded < cs.length then none
  else (Punycode.decode? cs).bind fun label =>
    if label.all (fate · = .kept) && composed label = label then some label else none

def label? (cs : List Char) : Option (List Char) :=
  let label := if marker.isPrefixOf cs then ofAsciiLetters? (cs.drop 4) else some cs
  label.filter isWellFormed

def toAscii (label : List Char) : List Char :=
  if isAscii label then label else marker ++ Punycode.encode label

end LspHost.Domain
