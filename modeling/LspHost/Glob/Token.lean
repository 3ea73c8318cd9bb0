import LspHost.Glob.Pattern

/-!
# The parts of a glob

A glob is written with single characters, classes, stars and groups. A double star between slashes
stands for directories: at the start of the glob or of an alternative it means any leading ones, at
the end whatever lies below, and between two slashes any number of directories.
-/

namespace LspHost.Glob

structure CharClass where
  negated : Bool
  ranges : List (Char × Char)
deriving Repr, DecidableEq

/-- A class holds the bytes of the characters written in it. A range runs from the last byte of its
first character to the first byte of its last one. -/
def CharClass.bytes (c : CharClass) : ByteClass :=
  { negated := c.negated
    ranges := c.ranges.flatMap fun (low, high) =>
      let single (b : UInt8) := (b, b)
      let lows := String.utf8EncodeChar low
      let highs := String.utf8EncodeChar high
      if low = high then lows.map single
      else lows.dropLast.map single ++ [(lows.getLastD 0, highs.headD 0)] ++
        (highs.drop 1).map single }

inductive Token where
  | literal (c : Char)
  | any
  | star
  | leading
  | trailing
  | between
  | oneOf (c : CharClass)
  | group (p : Pattern)
deriving Repr, DecidableEq

def Pattern.slash : Pattern :=
  byte (ByteClass.one 0x2F)

def Token.pattern : Token → Pattern
  | literal c => Pattern.ofBytes (String.utf8EncodeChar c)
  | any => .byte ByteClass.all
  | star => .star
  | leading => .alt .empty (.seq .star .slash)
  | trailing => .seq .slash .star
  | between => .alt .slash (.seq .slash (.seq .star .slash))
  | oneOf c => .byte c.bytes
  | group p => p

def Pattern.ofTokens (ts : List Token) : Pattern :=
  (ts.map Token.pattern).foldr append empty

/-- The alternatives that are not empty; with none of those, the empty pattern. -/
def Pattern.ofAlternatives (ps : List Pattern) : Pattern :=
  match ps.filter (· ≠ empty) with
  | [] => empty
  | p :: rest => rest.foldl alt p

end LspHost.Glob
