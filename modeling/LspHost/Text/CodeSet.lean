import LspHost.Text.Digits

/-!
# Sets of code points

A set is a list of ranges. It is written in rows of words, each a hexadecimal code point or two of
them joined by a hyphen, the first and the last of a range.
-/

namespace LspHost

structure CodeSet where
  ranges : List (Nat × Nat)
deriving Repr, DecidableEq

namespace CodeSet

def contains (s : CodeSet) (c : Char) : Bool :=
  s.ranges.any fun (low, high) => low ≤ c.toNat && c.toNat ≤ high

def range? (word : List Char) : Option (Nat × Nat) :=
  match splitChars '-' word with
  | [low] => (readDigits? 16 low).map fun n => (n, n)
  | [low, high] => (readDigits? 16 low).bind fun n => (readDigits? 16 high).map fun m => (n, m)
  | _ => none

def ofRows (rows : List String) : CodeSet :=
  ⟨rows.flatMap fun row => (splitChars ' ' row.toList).filterMap range?⟩

end CodeSet
end LspHost
