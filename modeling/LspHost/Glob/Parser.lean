import LspHost.Glob.Token

/-!
# Reading globs

A glob is read character by character. What a star means may depend on the two characters after it,
so the reader remembers a star, a double star, an escape or an unfinished class as its mode. Groups
nest; a comma separates alternatives only inside one.
-/

namespace LspHost

inductive Glob.Error where
  | unclosedClass
  | invalidRange (low high : Char)
  | unopenedGroup
  | unclosedGroup
  | danglingEscape
deriving Repr, DecidableEq

namespace Glob

def Error.reason : Error → String
  | unclosedClass => "unclosed character class; missing ']'"
  | invalidRange low high =>
    "invalid range; '" ++ low.toString ++ "' > '" ++ high.toString ++ "'"
  | unopenedGroup =>
    "unopened alternate group; missing '\x7b' (maybe escape '\x7d' with '[\x7d]'?)"
  | unclosedGroup =>
    "unclosed alternate group; missing '\x7d' (maybe escape '\x7b' with '[\x7b]'?)"
  | danglingEscape => "dangling '\\'"

/-- A class under construction: its ranges, last one first, and whether a `-` waits for an end. -/
structure OpenClass where
  negated : Bool
  ranges : List (Char × Char)
  inRange : Bool
deriving Repr, DecidableEq

inductive Mode where
  | plain
  | escape
  | star (before : Option Char)
  | doubleStar (before : Option Char)
  | classStart
  | inClass (c : OpenClass)
deriving Repr, DecidableEq

/-- A group that has been opened: the tokens before it, last one first, and its finished
alternatives, last one first. -/
structure OpenGroup where
  before : List Token
  alternatives : List Pattern
deriving Repr, DecidableEq

structure Reader where
  mode : Mode := .plain
  last : Option Char := none
  tokens : List Token := []
  groups : List OpenGroup := []
deriving Repr, DecidableEq

namespace Reader

def push (r : Reader) (t : Token) : Reader :=
  { r with mode := .plain, tokens := t :: r.tokens }

def branch (r : Reader) : Pattern :=
  Pattern.ofTokens r.tokens.reverse

def openGroup (r : Reader) : Reader :=
  { r with tokens := [], groups := { before := r.tokens, alternatives := [] } :: r.groups }

def comma (r : Reader) : Reader :=
  match r.groups with
  | [] => r.push (.literal ',')
  | g :: gs =>
    { r with tokens := [], groups := { g with alternatives := r.branch :: g.alternatives } :: gs }

def closeGroup (r : Reader) : Except Error Reader :=
  match r.groups with
  | [] => .error .unopenedGroup
  | g :: gs =>
    let group := Pattern.ofAlternatives (r.branch :: g.alternatives).reverse
    .ok { r with tokens := .group group :: g.before, groups := gs }

/-- What a character stands for where nothing is pending. -/
def plainChar (r : Reader) (c : Char) : Except Error Reader :=
  let r := { r with mode := .plain }
  match c with
  | '?' => .ok (r.push .any)
  | '*' => .ok { r with mode := .star r.last }
  | '[' => .ok { r with mode := .classStart }
  | '\x7b' => .ok r.openGroup
  | '\x7d' => r.closeGroup
  | ',' => .ok r.comma
  | '\\' => .ok { r with mode := .escape }
  | c => .ok (r.push (.literal c))

def twoStars (r : Reader) : Reader :=
  (r.push .star).push .star

/-- A double star after a slash takes the place of that slash, unless it follows another one. -/
def replaceLast (r : Reader) (t : Token) : Reader :=
  match r.tokens with
  | .leading :: _ => { r with mode := .plain }
  | .trailing :: _ => { r with mode := .plain }
  | _ :: rest => { r with mode := .plain, tokens := t :: rest }
  | [] => r.push t

/-- Settles a double star by the character after it. The answer tells whether that character is
used up. -/
def doubleStar (r : Reader) (before next : Option Char) : Reader × Bool :=
  if r.tokens = [] then
    match next with
    | none => (r.push .leading, true)
    | some '/' => (r.push .leading, true)
    | some _ => (r.twoStars, false)
  else if before ≠ some '/' ∧ (r.groups = [] ∨ (before ≠ some ',' ∧ before ≠ some '\x7b')) then
    (r.twoStars, false)
  else match next with
    | none => (r.replaceLast .trailing, true)
    | some '/' => (r.replaceLast .between, true)
    | some c =>
      if r.groups ≠ [] ∧ (c = ',' ∨ c = '\x7d') then (r.replaceLast .trailing, false)
      else (r.twoStars, false)

def classChar (o : OpenClass) (c : Char) : Except Error OpenClass :=
  match o.inRange, o.ranges with
  | true, (low, _) :: rest =>
    if c < low then .error (.invalidRange low c)
    else .ok { o with ranges := (low, c) :: rest, inRange := false }
  | _, ranges => .ok { o with ranges := (c, c) :: ranges, inRange := false }

def closeClass (r : Reader) (o : OpenClass) : Reader :=
  let ranges := if o.inRange then ('-', '-') :: o.ranges else o.ranges
  r.push (.oneOf { negated := o.negated, ranges := ranges.reverse })

def step (r : Reader) (c : Char) : Except Error Reader :=
  (fun r => { r with last := some c }) <$>
    match r.mode with
    | .plain => r.plainChar c
    | .escape => .ok (r.push (.literal c))
    | .star before =>
      if c = '*' then .ok { r with mode := .doubleStar before }
      else (r.push .star).plainChar c
    | .doubleStar before =>
      match r.doubleStar before (some c) with
      | (r, true) => .ok r
      | (r, false) => r.plainChar c
    | .classStart =>
      if c = '!' ∨ c = '^' then
        .ok { r with mode := .inClass { negated := true, ranges := [], inRange := false } }
      else
        .ok { r with mode := .inClass { negated := false, ranges := [(c, c)], inRange := false } }
    | .inClass o =>
      if o.ranges = [] then
        .ok { r with mode := .inClass { o with ranges := [(c, c)] } }
      else if c = ']' then .ok (r.closeClass o)
      else if c = '-' ∧ !o.inRange then .ok { r with mode := .inClass { o with inRange := true } }
      else (fun o => { r with mode := .inClass o }) <$> classChar o c

def finish (r : Reader) : Except Error (List Token) := do
  let r ← match r.mode with
    | .plain => .ok r
    | .escape => .error .danglingEscape
    | .star _ => .ok (r.push .star)
    | .doubleStar before => .ok (r.doubleStar before none).1
    | .classStart => .error .unclosedClass
    | .inClass _ => .error .unclosedClass
  if r.groups = [] then .ok r.tokens.reverse else .error .unclosedGroup

end Reader

def readTokens (s : String) : Except Error (List Token) :=
  s.toList.foldlM Reader.step {} >>= Reader.finish

end Glob

/-- A glob and the pattern it stands for. A double star alone matches everything. -/
structure Glob where
  source : String
  pattern : Glob.Pattern
deriving Repr, DecidableEq

namespace Glob

def ofString (s : String) : Except Error Glob :=
  (readTokens s).map fun ts =>
    { source := s
      pattern := if ts = [.leading] then .star else Pattern.ofTokens ts }

def isMatch (g : Glob) (bs : Bytes) : Bool :=
  g.pattern.isMatch bs

end Glob
end LspHost
