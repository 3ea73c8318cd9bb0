import LspHost.Logging.Pattern
import LspHost.Logging.Level
import LspHost.Text.Blank
import LspHost.Text.Utf8

/-!
# Directives

A directive is written `target[span{field=value}]=level`. Most of its parts may be left out, and a
word on its own is a level if there is such a level, else a target. Blanks around a directive do not
count when its parts are looked for, but the parts are cut out of the whole text at the positions
found, so that after blanks a cut may even tear a character apart.
-/

namespace LspHost

/-- What a directive asks of a field: that it is there or, with a value, that it matches. -/
structure FieldFilter where
  name : String
  value : Option (List Char)
deriving Repr, DecidableEq

structure Directive where
  target : Option String := none
  span : Option String := none
  field : Option FieldFilter := none
  limit : LevelLimit := .everything
deriving Repr, DecidableEq

namespace Directive

inductive Fault where
  | illFormed
  | torn
deriving Repr, DecidableEq

/-- How far a directive has been read, and where the part that is being read begins. -/
inductive Stage where
  | beginning
  | word (start : Nat)
  | span (start : Nat)
  | field (start : Nat)
  | afterFields
  | afterSpan
  | level (start : Nat)
deriving Repr, DecidableEq

/-- Whether no character reaches across a position. -/
def isGap (text : Bytes) (i : Nat) : Bool :=
  text[i]?.all fun b => b < 0x80 || 0xC0 ≤ b

/-- The bytes from one position up to another as text. -/
def cut (text : Bytes) (start stop : Nat) : Except Fault String :=
  match Utf8.decode? ((text.take stop).drop start) with
  | some part => if isGap text start then .ok part else .error .torn
  | none => .error .torn

def mayBegin (c : Char) : Bool :=
  c = '-' || c = ':' || c = '_' || alphanumeric.contains c

/-- A field by its name, or with a value after an equals sign, of which only the first counts. -/
def readField (part : String) : Except Fault FieldFilter :=
  match splitChars '=' part.toList with
  | [name] => if name = [] then .error .illFormed else .ok { name := part, value := none }
  | name :: value :: _ =>
    if ValuePattern.isWellFormed value then
      .ok { name := String.ofList name, value := some value }
    else .error .illFormed
  | [] => .error .illFormed

/-- Takes one more character, which stands at position `i`. -/
def step (text : Bytes) (i : Nat) (stage : Stage) (d : Directive) (c : Char) :
    Except Fault (Stage × Directive) := do
  match stage with
  | .beginning =>
    if c = '[' then .ok (.span (i + 1), d)
    else if mayBegin c then .ok (.word i, d)
    else .error .illFormed
  | .word start =>
    if c = '=' then .ok (.level (i + 1), { d with target := some (← cut text start i) })
    else if c = '[' then .ok (.span (i + 1), { d with target := some (← cut text start i) })
    else .ok (stage, d)
  | .span start =>
    if c = ']' then .ok (.afterSpan, { d with span := some (← cut text start i) })
    else if c = '\x7b' then
      .ok (.field (i + 1), { d with span := some (← cut text start i) |>.filter (· ≠ "") })
    else .ok (stage, d)
  | .field start =>
    if c = '\x7d' then
      .ok (.afterFields, { d with field := some (← readField (← cut text start i)) })
    else .ok (stage, d)
  | .afterFields => if c = ']' then .ok (.afterSpan, d) else .error .illFormed
  | .afterSpan => if c = '=' then .ok (.level (i + 1), d) else .error .illFormed
  | .level _ => .ok (stage, d)

def finish (text : Bytes) (stage : Stage) (d : Directive) : Except Fault Directive := do
  match stage with
  | .word start =>
    let part ← cut text start text.length
    match LevelLimit.ofChars? part.toList with
    | some limit => .ok { d with limit }
    | none => .ok { d with target := some part }
  | .level start =>
    let part ← cut text start text.length
    if part = "" then .ok d
    else match LevelLimit.ofChars? part.toList with
      | some limit => .ok { d with limit }
      | none => .error .illFormed
  | .afterSpan => .ok d
  | _ => .error .illFormed

def readFrom (text : Bytes) (i : Nat) (stage : Stage) (d : Directive) :
    List Char → Except Fault Directive
  | [] => finish text stage d
  | c :: rest => do
    let (stage, d) ← step text i stage d c
    readFrom text (i + c.utf8Size) stage d rest

def ofChars (cs : List Char) : Except Fault Directive :=
  readFrom (Utf8.encode (String.ofList cs)) 0 .beginning {} (trimBlanks cs)

/-- Whether a directive can be about records, and not only about what happens within spans. -/
def isStatic (d : Directive) : Bool :=
  d.span.isNone && d.field.all (·.value.isNone)

end Directive
end LspHost
