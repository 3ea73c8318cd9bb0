import LspHost.Text.Digits

/-!
# Levels

Every record has a level. A limit on levels hides the records above it; it is written as a word or
as a number of levels that are left.
-/

namespace LspHost

inductive Level where
  | error
  | warn
  | info
  | debug
  | trace
deriving Repr, DecidableEq

namespace Level

def text : Level → String
  | error => "ERROR"
  | warn => "WARN"
  | info => "INFO"
  | debug => "DEBUG"
  | trace => "TRACE"

/-- How much there is to be heard at a level. -/
def rank : Level → Nat
  | error => 0
  | warn => 1
  | info => 2
  | debug => 3
  | trace => 4

end Level

/-- The highest level that is shown, if any is. -/
structure LevelLimit where
  highest : Option Level
deriving Repr, DecidableEq

namespace LevelLimit

def shows (l : LevelLimit) (level : Level) : Bool :=
  l.highest.any fun highest => level.rank ≤ highest.rank

def everything : LevelLimit := ⟨some .trace⟩

/-- The limits with the words for them, from the narrowest on. -/
def named : List (String × LevelLimit) :=
  [("off", ⟨none⟩), ("error", ⟨some .error⟩), ("warn", ⟨some .warn⟩), ("info", ⟨some .info⟩),
    ("debug", ⟨some .debug⟩), ("trace", everything)]

/-- A limit by its number or by its word, whose letters may be capitals. -/
def ofChars? (cs : List Char) : Option LevelLimit :=
  match readWord? cs with
  | some n => (named[n]?).map Prod.snd
  | none => (named.find? (·.1.toList = cs.map Char.toLower)).map Prod.snd

end LevelLimit
end LspHost
