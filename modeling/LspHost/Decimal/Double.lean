/-!
# Double-precision numbers

A double is its 64 bits. Its value is a signed whole number of units, each a power of two; `nearest`
goes from a quotient of natural numbers to the double closest to it, a tie going to the one with an
even number of units. Product and quotient are the exact ones, rounded once.
-/

namespace LspHost

structure Double where
  bits : UInt64
deriving Repr, DecidableEq, Inhabited

namespace Double

def isNegative (d : Double) : Bool :=
  0x8000000000000000 ≤ d.bits.toNat

def magnitude (d : Double) : Nat :=
  d.bits.toNat % 0x8000000000000000

def infinity : Nat := 0x7FF0000000000000

def isFinite (d : Double) : Bool :=
  d.magnitude < infinity

/-- The leading bit of a number of units, which is not written. -/
def hidden : Nat := 0x10000000000000

def units (d : Double) : Nat :=
  if d.magnitude < hidden then d.magnitude else d.magnitude % hidden + hidden

/-- The unit is two to this power, less 1074. -/
def scale (d : Double) : Nat :=
  d.magnitude / hidden - 1

/-- The value without the sign, as a quotient. -/
def ratio (d : Double) : Nat × Nat :=
  (d.units * Nat.pow 2 d.scale, Nat.pow 2 1074)

def ofMagnitude (negative : Bool) (m : Nat) : Double :=
  ⟨UInt64.ofNat (m + if negative then 0x8000000000000000 else 0)⟩

/-- The least power of two, as a scale, in which the quotient has less than twice `hidden` units. -/
def scaleFor (num den : Nat) : Nat :=
  let quotient := num * Nat.pow 2 1074 / den
  quotient.log2 - 52

def roundQuotient (num den : Nat) : Nat :=
  let q := num / den
  let r := num % den
  if 2 * r < den then q
  else if 2 * r > den then q + 1
  else q + q % 2

def nearestMagnitude (num den : Nat) : Nat :=
  let s := scaleFor num den
  let m := s * hidden + roundQuotient (num * Nat.pow 2 1074) (den * Nat.pow 2 s)
  if m < infinity then m else infinity

def nearest (negative : Bool) (num den : Nat) : Double :=
  ofMagnitude negative (nearestMagnitude num den)

def mul (a b : Double) : Double :=
  let (x, y) := a.ratio
  let (z, w) := b.ratio
  nearest (a.isNegative != b.isNegative) (x * z) (y * w)

def div (a b : Double) : Double :=
  let (x, y) := a.ratio
  let (z, w) := b.ratio
  nearest (a.isNegative != b.isNegative) (x * w) (y * z)

def ofNat (n : Nat) : Double :=
  nearest false n 1

def neg (d : Double) : Double :=
  ofMagnitude (!d.isNegative) d.magnitude

def isZero (d : Double) : Bool :=
  d.magnitude = 0

end Double
end LspHost
