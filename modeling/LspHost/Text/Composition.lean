import LspHost.Text.CompositionTable

/-!
# Composed text

The same text can be written with a character for a letter with its accents, or with a letter that
marks follow. `composed` is the form with as few characters as possible: everything is taken apart,
the marks after each letter are put in the order of their classes, and what composes is put
together again. Hangul syllables are put together from their letters by calculation.
-/

namespace LspHost.Composition

/-- A first character, what may follow it, and what the two are together. -/
def pairsOfRow (row : String) : List (Nat × Nat × Nat) :=
  match splitChars ' ' row.toList with
  | [] => []
  | first :: words => words.filterMap fun word => do
    let base ← readDigits? 16 first
    match splitChars '=' word with
    | [next, whole] => do return (base, ← readDigits? 16 next, ← readDigits? 16 whole)
    | _ => none

def pairs : List (Nat × Nat × Nat) :=
  compositionRows.flatMap pairsOfRow

def combiningClass (c : Char) : Nat :=
  if c.toNat < 0x300 then 0
  else ((combiningClasses.find? fun (_, set) => set.contains c).map Prod.fst).getD 0

def syllableBase : Nat := 0xAC00
def leadBase : Nat := 0x1100
def vowelBase : Nat := 0x1161
def tailBase : Nat := 0x11A7
def leadCount : Nat := 19
def vowelCount : Nat := 21
def tailCount : Nat := 28

def letters? (n : Nat) : Option (List Nat) :=
  if syllableBase ≤ n ∧ n < syllableBase + leadCount * vowelCount * tailCount then
    let i := n - syllableBase
    let tail := i % tailCount
    some ([leadBase + i / tailCount / vowelCount, vowelBase + i / tailCount % vowelCount] ++
      if tail = 0 then [] else [tailBase + tail])
  else none

/-- A Hangul syllable from two parts of it. -/
def syllable? (a b : Nat) : Option Nat :=
  if leadBase ≤ a ∧ a < leadBase + leadCount ∧ vowelBase ≤ b ∧ b < vowelBase + vowelCount then
    some (syllableBase + ((a - leadBase) * vowelCount + (b - vowelBase)) * tailCount)
  else if syllableBase ≤ a ∧ a < syllableBase + leadCount * vowelCount * tailCount ∧
      (a - syllableBase) % tailCount = 0 ∧ tailBase < b ∧ b < tailBase + tailCount then
    some (a + (b - tailBase))
  else none

def pair? (n : Nat) : Option (Nat × Nat) :=
  (pairs.find? fun (_, _, whole) => whole = n).map fun (a, b, _) => (a, b)

/-- The parts of a character. The first of a pair may have parts of its own, at most twice over. -/
def partsWithin : Nat → Nat → List Nat
  | 0, n => [n]
  | depth + 1, n =>
    match letters? n with
    | some ns => ns
    | none => match pair? n with
      | some (a, b) => partsWithin depth a ++ [b]
      | none => [n]

def parts (c : Char) : List Char :=
  if c.toNat < 0xC0 then [c] else (partsWithin 3 c.toNat).map Char.ofNat

/-- Puts a mark behind the marks before it whose class is not higher; `before` is kept backwards. -/
def insertMark (c : Char) (k : Nat) : List (Char × Nat) → List (Char × Nat)
  | [] => [(c, k)]
  | (d, m) :: rest =>
    if k < m ∧ k ≠ 0 then (d, m) :: insertMark c k rest else (c, k) :: (d, m) :: rest

def ordered (cs : List Char) : List (Char × Nat) :=
  ((cs.flatMap parts).foldl (fun before c => insertMark c (combiningClass c) before) []).reverse

def compose? (a b : Char) : Option Char :=
  match syllable? a.toNat b.toNat with
  | some n => some (Char.ofNat n)
  | none =>
    (pairs.find? fun (base, next, _) => base = a.toNat && next = b.toNat).map
      fun (_, _, whole) => Char.ofNat whole

/-- Composes a letter with what follows it. `held` are the marks that did not compose with it, kept
backwards; a mark behind one whose class is not lower does not reach the letter. -/
def composeFrom (letter : Char) (held : List (Char × Nat)) : List (Char × Nat) → List Char
  | [] => letter :: (held.map Prod.fst).reverse
  | (c, k) :: rest =>
    let reaches := match held with
      | [] => true
      | (_, m) :: _ => m < k
    match if reaches then compose? letter c else none with
    | some whole => composeFrom whole held rest
    | none =>
      if k = 0 then letter :: (held.map Prod.fst).reverse ++ composeFrom c [] rest
      else composeFrom letter ((c, k) :: held) rest

/-- Marks that no letter comes before stay as they are. -/
def composeAll : List (Char × Nat) → List Char
  | [] => []
  | (c, k) :: rest => if k = 0 then composeFrom c [] rest else c :: composeAll rest

end Composition

def composed (cs : List Char) : List Char :=
  if cs.all (·.toNat < 0xC0) then cs else Composition.composeAll (Composition.ordered cs)

end LspHost
