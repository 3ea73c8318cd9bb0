import LspHost.Text.Digits

/-!
# Labels in ASCII letters

A label with other characters is written as its ASCII characters, a hyphen, and a number for each of
the others in the order of their code points: how far one has to count through the places where it
could stand. The digits of a number have bases that adapt to the numbers before it.
-/

namespace LspHost.Punycode

/-- What large numbers are brought down to: the rest, and what that adds to the bias. -/
def reduced (delta bias : Nat) : Nat × Nat :=
  if 455 < delta then reduced (delta / 35) (bias + 36) else (delta, bias)
termination_by delta
decreasing_by omega

def adapt (delta points : Nat) (first : Bool) : Nat :=
  let delta := if first then delta / 700 else delta / 2
  let (rest, bias) := reduced (delta + delta / points) 0
  bias + 36 * rest / (rest + 38)

/-- The digit values below which a number ends, at the place of weight `k`. -/
def threshold (bias k : Nat) : Nat :=
  if k ≤ bias then 1 else if bias + 26 ≤ k then 26 else k - bias

def digit (d : Nat) : Char :=
  if d < 26 then Char.ofNat (0x61 + d) else Char.ofNat (0x16 + d)

def value? (c : Char) : Option Nat :=
  if c.isLower then some (c.toNat - 0x61)
  else if c.isUpper then some (c.toNat - 0x41)
  else if c.isDigit then some (c.toNat - 0x16)
  else none

theorem threshold_pos (bias k : Nat) : 0 < threshold bias k := by
  unfold threshold
  split
  · omega
  · split <;> omega

def digits (bias q k : Nat) : List Char :=
  let t := threshold bias k
  if q < t then [digit q]
  else digit (t + (q - t) % (36 - t)) :: digits bias ((q - t) / (36 - t)) (k + 36)
termination_by q
decreasing_by
  have := threshold_pos bias k
  have := Nat.div_le_self (q - threshold bias k) (36 - threshold bias k)
  omega

structure Progress where
  delta : Nat
  bias : Nat
  handled : Nat
  out : List Char

/-- One round: everything below `n` has been written, and the characters `n` come next. -/
def round (basic : Nat) (cs : List Char) (n : Nat) (p : Progress) : Progress :=
  let p := cs.foldl (fun p c =>
    if c.toNat < n then { p with delta := p.delta + 1 }
    else if c.toNat = n then
      { delta := 0
        bias := adapt p.delta (p.handled + 1) (p.handled = basic)
        handled := p.handled + 1
        out := p.out ++ digits p.bias p.delta 36 }
    else p) p
  { p with delta := p.delta + 1 }

def encode (cs : List Char) : List Char :=
  let basic := cs.filter (·.toNat < 0x80)
  let others := (cs.filter (0x80 ≤ ·.toNat)).map Char.toNat
  let points := (others.mergeSort).eraseDups
  let start := if basic = [] then [] else basic ++ ['-']
  let (p, _) := points.foldl (fun (p, m) n =>
    let p := { p with delta := p.delta + (n - m) * (p.handled + 1) }
    (round basic.length cs n p, n + 1))
    (({ delta := 0, bias := 72, handled := basic.length, out := start } : Progress), 0x80)
  p.out

def limit : Nat := 0x100000000

/-- A place that characters can be inserted at has been counted up to `place` in the round of
character `n`. -/
structure Reading where
  text : List Char
  n : Nat := 0x80
  place : Nat := 0
  bias : Nat := 72

/-- Within a number: what it counts from, and the weight of its next digit. -/
structure Number where
  start : Nat
  weight : Nat := 1
  k : Nat := 36

def char? (n : Nat) : Option Char :=
  if n.isValidChar then some (Char.ofNat n) else none

/-- Inserts the character that the number which ends at `place` stands for. -/
def Reading.insert? (r : Reading) (start : Nat) : Option Reading :=
  let length := r.text.length + 1
  let n := r.n + r.place / length
  let place := r.place % length
  (char? n).map fun c =>
    { text := r.text.take place ++ c :: r.text.drop place
      n, place := place + 1, bias := adapt (r.place - start) length (start = 0) }

def decodeFrom (r : Reading) : Option Number → List Char → Option (List Char)
  | none, [] => some r.text
  | some _, [] => none
  | number, c :: rest => do
    let number := number.getD { start := r.place }
    let d ← value? c
    let place := r.place + d * number.weight
    if limit ≤ d * number.weight ∨ limit ≤ place then none
    let r := { r with place }
    let t := threshold r.bias number.k
    if d < t then decodeFrom (← r.insert? number.start) none rest
    else
      let weight := number.weight * (36 - t)
      if limit ≤ weight then none
      else decodeFrom r (some { number with weight, k := number.k + 36 }) rest

/-- The ASCII characters before the last hyphen, and the digits after it. A hyphen at the very
beginning is no separator. -/
def split (cs : List Char) : List Char × List Char :=
  match cs.reverse.dropWhile (· ≠ '-') with
  | [] => ([], cs)
  | [_] => ([], cs)
  | _ :: basic => (basic.reverse, (cs.reverse.takeWhile (· ≠ '-')).reverse)

def decode? (cs : List Char) : Option (List Char) :=
  let (basic, rest) := split cs
  decodeFrom { text := basic.map Char.toLower } none rest

end LspHost.Punycode
