import LspHost.Url.Domain.Direction
import LspHost.Url.Domain.Label

/-!
# Domains

`toAscii?` gives the form of a domain in which two domains that mean the same are equal: mapped, and
each label in ASCII characters.
-/

namespace LspHost.Domain

def forbidden (c : Char) : Bool :=
  c.toNat ≤ 0x20 || c.toNat = 0x7F || "%#/:<>?@[\\]^|".toList.contains c

def labels? (cs : List Char) : Option (List (List Char)) := do
  let mapped ← map? cs
  let labels ← (splitChars '.' mapped).mapM label?
  if labels.any (·.any fun c => forbidden c || c = '.') then none
  else if directed labels then some labels
  else none

def toAscii? (cs : List Char) : Option (List Char) :=
  (labels? cs).map fun labels => ['.'].intercalate (labels.map toAscii)

end LspHost.Domain
