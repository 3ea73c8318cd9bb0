import LspHost.Text.Alphanumeric

/-!
# Patterns for values

The value that a directive asks of a field is a number or a regular expression. Here it only matters
whether it is well-formed: groups and classes are closed, every repetition follows something, and
escapes, flags and names are known ones. A closing brace cannot occur in a value, so that nothing
can be written that needs one; what looks at the text around a match is not known either.
-/

namespace LspHost.ValuePattern

inductive Item where
  | literal (c : Char)
  | set
  | place
deriving Repr, DecidableEq

/-- The character whose code point is written with `n` hexadecimal digits. -/
def hex? (n : Nat) (cs : List Char) : Option (Item × List Char) :=
  let (digits, rest) := cs.splitAt n
  if digits.length < n then none
  else (readDigits? 16 digits).bind fun code =>
    if code.isValidChar then some (.literal (Char.ofNat code), rest) else none

/-- The control characters that have a letter. -/
def control? : Char → Option Char
  | 'a' => some '\x07'
  | 't' => some '\t'
  | 'n' => some '\n'
  | 'v' => some '\x0b'
  | 'f' => some '\x0c'
  | 'r' => some '\r'
  | _ => none

def isCategory (c : Char) : Bool :=
  "CLMNPSZ".toList.contains c.toUpper

/-- A character that may be escaped although it stands for itself. -/
def isEscapable (c : Char) : Bool :=
  c.toNat < 0x80 && !c.isAlphanum && c ≠ '<' && c ≠ '>'

/-- What follows a backslash. -/
def escape? : List Char → Option (Item × List Char)
  | [] => none
  | 'x' :: rest => hex? 2 rest
  | 'u' :: rest => hex? 4 rest
  | 'U' :: rest => hex? 8 rest
  | c :: rest =>
    if c = 'p' ∨ c = 'P' then match rest with
      | [] => none
      | category :: rest => if isCategory category then some (.set, rest) else none
    else if "dswDSW".toList.contains c then some (.set, rest)
    else if c = 'A' ∨ c = 'z' then some (.place, rest)
    else match control? c with
      | some d => some (.literal d, rest)
      | none => if isEscapable c then some (.literal c, rest) else none

def item? : List Char → Option (Item × List Char)
  | [] => none
  | '\\' :: rest => escape? rest
  | c :: rest => some (.literal c, rest)

def classNames : List String :=
  ["alnum", "alpha", "ascii", "blank", "cntrl", "digit", "graph", "lower", "print", "punct",
    "space", "upper", "word", "xdigit"]

/-- What follows a named class, whose opening bracket has been read. -/
def namedClass? : List Char → Option (List Char)
  | ':' :: cs =>
    let cs := match cs with
      | '^' :: rest => rest
      | rest => rest
    let (name, rest) := cs.span (· ≠ ':')
    match rest with
    | ':' :: ']' :: rest => if classNames.contains (String.ofList name) then some rest else none
    | _ => none
  | _ => none

/-- What follows the beginning of a class, in which hyphens and a first closing bracket stand for
themselves. -/
def openClass (cs : List Char) : List Char :=
  let cs := match cs with
    | '^' :: rest => rest
    | rest => rest
  match cs with
  | ']' :: rest => rest
  | cs => cs.dropWhile (· = '-')

/-- What follows an item of a class, which may be a range. -/
def classItem? (cs : List Char) : Option (List Char) :=
  (item? cs).bind fun (first, rest) =>
    match rest with
    | ['-'] => none
    | '-' :: c :: more =>
      if c = ']' ∨ c = '-' then (if first = .place then none else some rest)
      else match first, item? (c :: more) with
        | .literal low, some (.literal high, rest) => if low ≤ high then some rest else none
        | _, _ => none
    | rest => if first = .place then none else some rest

/-- What follows a class inside which `depth` others are open. -/
def classEnd? : Nat → Nat → List Char → Option (List Char)
  | 0, _, _ => none
  | fuel + 1, depth, cs =>
    match cs with
    | [] => none
    | ']' :: rest =>
      match depth with
      | 0 => some rest
      | depth + 1 => classEnd? fuel depth rest
    | '[' :: rest =>
      match namedClass? rest with
      | some rest => classEnd? fuel depth rest
      | none => classEnd? fuel (depth + 1) (openClass rest)
    | '&' :: '&' :: rest => classEnd? fuel depth rest
    | '-' :: '-' :: rest => classEnd? fuel depth rest
    | '~' :: '~' :: rest => classEnd? fuel depth rest
    | cs => (classItem? cs).bind (classEnd? fuel depth)

/-- How something in parentheses begins: as a group, perhaps with a name, or as flags alone. -/
inductive Opening where
  | group (name : Option (List Char))
  | flags
deriving Repr, DecidableEq

/-- Flags up to a colon or the closing parenthesis, each at most once. -/
def flags? (seen : List Char) : List Char → Option (Opening × List Char)
  | [] => none
  | c :: rest =>
    if c = ':' then (if seen.head? = some '-' then none else some (.group none, rest))
    else if c = ')' then
      (if seen = [] ∨ seen.head? = some '-' then none else some (.flags, rest))
    else if "-imsUuRx".toList.contains c ∧ !seen.contains c then flags? (c :: seen) rest
    else none

def isName : List Char → Bool
  | [] => false
  | c :: rest =>
    (c = '_' || (alphanumeric.contains c && !c.isDigit)) &&
      rest.all fun c => "_.[]".toList.contains c || alphanumeric.contains c

def groupName? (cs : List Char) : Option (Opening × List Char) :=
  let (name, rest) := cs.span (· ≠ '>')
  if rest ≠ [] ∧ isName name then some (.group (some name), rest.drop 1) else none

/-- What an opening parenthesis begins. -/
def opening? : List Char → Option (Opening × List Char)
  | '?' :: 'P' :: '<' :: rest => groupName? rest
  | '?' :: '<' :: rest => groupName? rest
  | '?' :: rest => flags? [] rest
  | rest => some (.group none, rest)

/-- How far an expression has been read: the groups that are open, the names of all groups and
whether there is something to repeat. -/
structure Progress where
  depth : Nat := 0
  names : List (List Char) := []
  repeatable : Bool := false
deriving Repr, DecidableEq

def read : Nat → Progress → List Char → Bool
  | 0, _, _ => false
  | fuel + 1, p, cs =>
    let operand := { p with repeatable := true }
    match cs with
    | [] => p.depth = 0
    | '(' :: rest =>
      match opening? rest with
      | none => false
      | some (.flags, rest) => read fuel { p with repeatable := false } rest
      | some (.group name, rest) =>
        !name.any p.names.contains &&
          read fuel { depth := p.depth + 1, names := name.toList ++ p.names } rest
    | ')' :: rest => p.depth ≠ 0 && read fuel { operand with depth := p.depth - 1 } rest
    | '|' :: rest => read fuel { p with repeatable := false } rest
    | '[' :: rest => ((classEnd? cs.length 0 (openClass rest)).any (read fuel operand))
    | '\\' :: rest => (escape? rest).any fun (_, rest) => read fuel operand rest
    | c :: rest =>
      if c = '\x7b' then false
      else if c = '?' ∨ c = '*' ∨ c = '+' then p.repeatable && read fuel operand rest
      else read fuel operand rest

def isExpression (cs : List Char) : Bool :=
  read (cs.length + 1) {} cs

def withoutSign : List Char → List Char
  | '+' :: rest => rest
  | '-' :: rest => rest
  | rest => rest

def isDecimal (cs : List Char) : Bool :=
  let (whole, rest) := cs.span Char.isDigit
  let (fraction, rest) := match rest with
    | '.' :: rest => rest.span Char.isDigit
    | rest => ([], rest)
  (whole ≠ [] || fraction ≠ []) &&
    match rest with
    | [] => true
    | e :: rest =>
      (e = 'e' || e = 'E') && withoutSign rest ≠ [] && (withoutSign rest).all Char.isDigit

def isNumber (cs : List Char) : Bool :=
  let body := withoutSign cs
  isDecimal body || ["inf", "infinity", "nan"].contains (String.ofList (body.map Char.toLower))

def isWellFormed (cs : List Char) : Bool :=
  isNumber cs || isExpression cs

end LspHost.ValuePattern
