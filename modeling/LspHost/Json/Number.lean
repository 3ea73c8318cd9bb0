import LspHost.Json.Basic
import LspHost.Decimal.Shortest

/-!
# Numbers in JSON

A number written without point and exponent is a whole number if it fits in 64 bits. Any other is a
double: its digits, as many as fit in 64 bits, multiplied or divided by a power of ten. A double is
written with its shortest digits, positionally while its first digit stands at most five places
after the point or sixteen before it.
-/

namespace LspHost.Json

def maxWord : Nat := 0xFFFFFFFFFFFFFFFF

def digitValue (c : Char) : Nat :=
  c.toNat - 0x30

/-- The digits read so far, and how many of the whole part were left out. -/
structure Significand where
  value : Nat
  skipped : Nat
deriving Repr, DecidableEq

def wholeDigits (cs : List Char) : Significand :=
  cs.foldl (fun s c =>
    if s.skipped = 0 ∧ s.value * 10 + digitValue c ≤ maxWord then
      { s with value := s.value * 10 + digitValue c }
    else { s with skipped := s.skipped + 1 }) { value := 0, skipped := 0 }

/-- Adds digits after the point until one does not fit, and counts those added. -/
def fractionDigits (value : Nat) : List Char → Nat × Nat
  | [] => (value, 0)
  | c :: rest =>
    if value * 10 + digitValue c ≤ maxWord then
      let (v, n) := fractionDigits (value * 10 + digitValue c) rest
      (v, n + 1)
    else (value, 0)

def powerOfTen (n : Nat) : Double :=
  Double.ofNat (Nat.pow 10 n)

/-- Divides until the power of ten left over is one that a double can hold. -/
def scaleDown : Nat → Double → Nat → Double
  | 0, d, _ => d
  | fuel + 1, d, n =>
    if n ≤ 308 ∨ d.isZero then (if d.isZero then d else d.div (powerOfTen n))
    else scaleDown fuel (d.div (powerOfTen 308)) (n - 308)

def scaled? (value : Nat) (exponent : Int) : Option Double :=
  let d := Double.ofNat value
  match exponent with
  | .ofNat n =>
    if d.isZero then some d
    else if n ≤ 308 then
      let product := d.mul (powerOfTen n)
      if product.isFinite then some product else none
    else none
  | .negSucc n => some (scaleDown 4 d (n + 1))

/-- An exponent beyond any that matters is cut off. -/
def exponent? (cs : List Char) : Option Int :=
  let (negative, digits) := match cs with
    | '+' :: rest => (false, rest)
    | '-' :: rest => (true, rest)
    | rest => (false, rest)
  if digits = [] ∨ !digits.all Char.isDigit then none
  else
    let n : Int := min (digits.foldl (fun n c => n * 10 + digitValue c) 0 : Nat) 0x10000000000
    some (if negative then -n else n)

def unsignedDouble? (whole fraction : List Char) (exponent : Option (List Char)) :
    Option Double := do
  let s := wholeDigits whole
  let (value, added) := fractionDigits s.value fraction
  let e ← match exponent with
    | none => some 0
    | some cs => exponent? cs
  if value = 0 then some (Double.ofNat 0)
  else scaled? value (s.skipped - added + e)

def numberParts? (cs : List Char) : Option (List Char × Option (List Char) × Option (List Char)) :=
  let (whole, rest) := cs.span Char.isDigit
  let wellFormed := match whole with
    | [] => false
    | '0' :: _ :: _ => false
    | _ => true
  if !wellFormed then none
  else match rest with
    | [] => some (whole, none, none)
    | '.' :: rest =>
      let (fraction, rest) := rest.span Char.isDigit
      if fraction = [] then none
      else match rest with
        | [] => some (whole, some fraction, none)
        | c :: e => if c = 'e' ∨ c = 'E' then some (whole, some fraction, some e) else none
    | c :: e => if c = 'e' ∨ c = 'E' then some (whole, none, some e) else none

def ofNumber? (cs : List Char) : Option Json :=
  let (negative, cs) := match cs with
    | '-' :: rest => (true, rest)
    | rest => (false, rest)
  match numberParts? cs with
  | none => none
  | some (whole, none, none) =>
    let s := wholeDigits whole
    if s.skipped ≠ 0 then
      (scaled? s.value s.skipped).map fun d => double (if negative then d.neg else d)
    else if !negative then some (int s.value)
    else if 0 < s.value ∧ s.value ≤ 0x8000000000000000 then some (int (-s.value))
    else some (double (Double.ofNat s.value).neg)
  | some (whole, fraction, exponent) =>
    (unsignedDouble? whole (fraction.getD []) exponent).map fun d =>
      double (if negative then d.neg else d)

/-- An exponent is never written without its sign. -/
def exponentText (e : Int) : List Char :=
  (if e < 0 then "" else "+").toList ++ (toString e).toList

/-- Digits with a point, or with an exponent where the point would be too far away. -/
def doubleText (d : Double) : String :=
  let c := Decimal.shortest d
  let digits := Nat.toDigits 10 c.value
  let length : Int := digits.length
  let point := length + c.exponent
  let body :=
    if d.isZero then ['0', '.', '0']
    else if 0 ≤ c.exponent ∧ point ≤ 16 then
      digits ++ List.replicate c.exponent.toNat '0' ++ ['.', '0']
    else if 0 < point ∧ point ≤ 16 then
      digits.take point.toNat ++ '.' :: digits.drop point.toNat
    else if -5 < point ∧ point ≤ 0 then
      ['0', '.'] ++ List.replicate (-point).toNat '0' ++ digits
    else
      let fraction := if digits.length = 1 then [] else '.' :: digits.drop 1
      digits.take 1 ++ fraction ++ 'e' :: exponentText (point - 1)
  String.ofList (if d.isNegative then '-' :: body else body)

end LspHost.Json
