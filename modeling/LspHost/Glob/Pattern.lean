import LspHost.Text.Utf8

/-!
# Patterns over bytes

What a glob means: a pattern matches byte strings as a whole. Matching goes through the pattern
once and keeps, for every position of the subject, whether the part of the pattern read so far can
end there, so that its cost is the product of the two lengths. `Matches` says the same pattern by
pattern.
-/

namespace LspHost.Glob

structure ByteClass where
  negated : Bool
  ranges : List (UInt8 × UInt8)
deriving Repr, DecidableEq

namespace ByteClass

def contains (s : ByteClass) (b : UInt8) : Bool :=
  (s.ranges.any fun (low, high) => low ≤ b && b ≤ high) != s.negated

def one (b : UInt8) : ByteClass :=
  { negated := false, ranges := [(b, b)] }

def all : ByteClass :=
  { negated := true, ranges := [] }

end ByteClass

inductive Pattern where
  | empty
  | byte (s : ByteClass)
  | star
  | seq (p q : Pattern)
  | alt (p q : Pattern)
deriving Repr, DecidableEq

namespace Pattern

/-- The pattern on byte strings: `star` is any bytes, the separator included. -/
inductive Matches : Pattern → Bytes → Prop where
  | empty : Matches empty []
  | byte {s b} : s.contains b = true → Matches (byte s) [b]
  | star (bs) : Matches star bs
  | seq {p q xs ys} : Matches p xs → Matches q ys → Matches (seq p q) (xs ++ ys)
  | left {p q bs} : Matches p bs → Matches (alt p q) bs
  | right {p q bs} : Matches q bs → Matches (alt p q) bs

/-- Two patterns in a row, without trace of an empty one. -/
def append : Pattern → Pattern → Pattern
  | empty, q => q
  | p, empty => p
  | p, q => seq p q

def ofBytes (bs : Bytes) : Pattern :=
  (bs.map fun b => byte (ByteClass.one b)).foldr append empty

/-- Whether any of the positions up to each one is reached. -/
def spread (reached : Bool) : List Bool → List Bool
  | [] => []
  | r :: rs => (reached || r) :: spread (reached || r) rs

/-- The positions reached after `p` from the positions reached before it. Position `i` of `bs` has
`i` bytes before it, so there is one position more than there are bytes. -/
def advance (bs : Bytes) : Pattern → List Bool → List Bool
  | empty, rs => rs
  | byte s, rs => false :: List.zipWith (fun b r => r && s.contains b) bs rs
  | star, rs => spread false rs
  | seq p q, rs => advance bs q (advance bs p rs)
  | alt p q, rs => List.zipWith (· || ·) (advance bs p rs) (advance bs q rs)

def start (bs : Bytes) : List Bool :=
  true :: bs.map fun _ => false

def isMatch (p : Pattern) (bs : Bytes) : Bool :=
  (advance bs p (start bs)).getLastD false

end Pattern
end LspHost.Glob
