import LspHost.Decimal.Double

/-!
# Shortest decimals

The decimal with the fewest digits that is read back as a given double, and of those the one nearest
to it. For each number of digits only the two decimals on either side of the double can do.
-/

namespace LspHost.Decimal

/-- The digits as a number and the power of ten of the last of them. -/
structure Digits where
  value : Nat
  exponent : Int
deriving Repr, DecidableEq

/-- Ends of the interval of numbers that round to the double, in quarters of its unit. -/
def quarterBounds (d : Double) : Nat × Nat :=
  let m := d.units
  (if m = Double.hidden ∧ 0 < d.scale then 4 * m - 1 else 4 * m - 2, 4 * m + 2)

def readsBack (d : Double) (c : Digits) : Bool :=
  let (low, high) := quarterBounds d
  let num := c.value * Nat.pow 10 c.exponent.toNat * Nat.pow 2 1076
  let den := Nat.pow 10 (-c.exponent).toNat * Nat.pow 2 d.scale
  if d.units % 2 = 0 then low * den ≤ num && num ≤ high * den
  else low * den < num && num < high * den

def leadingExponent (d : Double) : Int :=
  let (num, den) := d.ratio
  ((Nat.toDigits 10 (num * Nat.pow 10 330 / den)).length : Int) - 331

/-- The decimals with `n` digits on either side of the double, the nearer one first. -/
def neighbours (d : Double) (n : Nat) : List Digits :=
  let exponent := leadingExponent d - n + 1
  let (x, y) := d.ratio
  let num := x * Nat.pow 10 (-exponent).toNat
  let den := y * Nat.pow 10 exponent.toNat
  let below : Digits := { value := num / den, exponent }
  let above : Digits := { value := num / den + 1, exponent }
  let rest := num % den
  if 2 * rest < den ∨ (2 * rest = den ∧ below.value % 2 = 0) then [below, above]
  else [above, below]

def strip : Nat → Digits → Digits
  | 0, c => c
  | fuel + 1, c =>
    if c.value ≠ 0 ∧ c.value % 10 = 0 then
      strip fuel { value := c.value / 10, exponent := c.exponent + 1 }
    else c

/-- Digits without a last zero; zero has the one digit `0`. -/
def shortest (d : Double) : Digits :=
  if d.isZero then { value := 0, exponent := 0 }
  else
    let found := (List.range 17).findSome? fun i => (neighbours d (i + 1)).find? (readsBack d)
    match found with
    | some c => strip 17 c
    | none => { value := 0, exponent := 0 }

end LspHost.Decimal
