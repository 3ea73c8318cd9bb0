import LspHost.Json.Number
import LspHost.Text.Utf8

/-!
# Reading JSON

Text is cut into tokens one character at a time, and tokens are put together with a stack of the
arrays and objects that are still open. At most 127 of them may be open at once.
-/

namespace LspHost.Json

inductive Token where
  | openArr
  | closeArr
  | openObj
  | closeObj
  | comma
  | colon
  | text (s : String)
  | atom (j : Json)
deriving Repr, Inhabited

/-- What the characters read last belong to. Characters are kept last one first. -/
inductive Lexer.Mode where
  | between
  | word (cs : List Char)
  | text (cs : List Char)
  | escape (cs : List Char)
  | code (cs : List Char) (digits value : Nat) (high : Option Nat)
  | lowEscape (cs : List Char) (high : Nat)
  | lowCode (cs : List Char) (high : Nat)
deriving Repr

namespace Lexer

def isBlank (c : Char) : Bool :=
  c = ' ' || c = '\n' || c = '\t' || c = '\r'

def mark? (c : Char) : Option Token :=
  match c with
  | '[' => some .openArr
  | ']' => some .closeArr
  | '\x7b' => some .openObj
  | '\x7d' => some .closeObj
  | ',' => some .comma
  | ':' => some .colon
  | _ => none

def word? (cs : List Char) : Option Json :=
  match cs with
  | ['n', 'u', 'l', 'l'] => some .null
  | ['t', 'r', 'u', 'e'] => some (.bool true)
  | ['f', 'a', 'l', 's', 'e'] => some (.bool false)
  | cs => ofNumber? cs

def hexValue? (c : Char) : Option Nat :=
  if '0' ≤ c ∧ c ≤ '9' then some (c.toNat - 0x30)
  else if 'a' ≤ c ∧ c ≤ 'f' then some (c.toNat - 0x57)
  else if 'A' ≤ c ∧ c ≤ 'F' then some (c.toNat - 0x37)
  else none

def escaped? (c : Char) : Option Char :=
  match c with
  | '"' => some '"'
  | '\\' => some '\\'
  | '/' => some '/'
  | 'b' => some '\x08'
  | 'f' => some '\x0c'
  | 'n' => some '\n'
  | 'r' => some '\r'
  | 't' => some '\t'
  | _ => none

/-- A complete escape with a code. The two halves of a pair follow each other. -/
def codeDone? (cs : List Char) (value : Nat) (high : Option Nat) : Option Mode :=
  match high with
  | some h =>
    if 0xDC00 ≤ value ∧ value ≤ 0xDFFF then
      some (.text (Char.ofNat ((h - 0xD800) * 0x400 + (value - 0xDC00) + 0x10000) :: cs))
    else none
  | none =>
    if 0xD800 ≤ value ∧ value ≤ 0xDBFF then some (.lowEscape cs value)
    else if 0xDC00 ≤ value ∧ value ≤ 0xDFFF then none
    else some (.text (Char.ofNat value :: cs))

structure State where
  mode : Mode := .between
  tokens : List Token := []

def between? (tokens : List Token) (c : Char) : Option State :=
  if isBlank c then some { tokens }
  else match mark? c with
    | some t => some { tokens := t :: tokens }
    | none => some { mode := if c = '"' then .text [] else .word [c], tokens }

def step? (s : State) (c : Char) : Option State :=
  match s.mode with
  | .between => between? s.tokens c
  | .word cs =>
    if isBlank c || (mark? c).isSome || c = '"' then do
      let j ← word? cs.reverse
      between? (.atom j :: s.tokens) c
    else some { s with mode := .word (c :: cs) }
  | .text cs =>
    if c = '"' then some { tokens := .text (String.ofList cs.reverse) :: s.tokens }
    else if c = '\\' then some { s with mode := .escape cs }
    else if c.toNat < 0x20 then none
    else some { s with mode := .text (c :: cs) }
  | .escape cs =>
    if c = 'u' then some { s with mode := .code cs 4 0 none }
    else (escaped? c).map fun d => { s with mode := .text (d :: cs) }
  | .code cs digits value high => do
    let v ← hexValue? c
    let value := value * 16 + v
    if digits = 1 then (codeDone? cs value high).map fun mode => { s with mode }
    else some { s with mode := .code cs (digits - 1) value high }
  | .lowEscape cs high => if c = '\\' then some { s with mode := .lowCode cs high } else none
  | .lowCode cs high => if c = 'u' then some { s with mode := .code cs 4 0 (some high) } else none

def finish? (s : State) : Option (List Token) :=
  match s.mode with
  | .between => some s.tokens.reverse
  | .word cs => (word? cs.reverse).map fun j => (.atom j :: s.tokens).reverse
  | _ => none

def tokens? (cs : List Char) : Option (List Token) :=
  cs.foldlM step? {} >>= finish?

end Lexer

/-- An array or object that is still open, its contents last one first. -/
inductive Frame where
  | items (js : List Json)
  | members (ms : List (String × Json)) (key : String)
deriving Repr

inductive Expect where
  | value
  | valueOrClose
  | commaOrClose
  | keyOrClose (ms : List (String × Json))
  | key (ms : List (String × Json))
  | colon (ms : List (String × Json)) (key : String)
  | done (j : Json)
deriving Repr

structure Builder where
  frames : List Frame := []
  expect : Expect := .value
deriving Repr

namespace Builder

def maxOpen : Nat := 127

def give (frames : List Frame) (j : Json) : Builder :=
  match frames with
  | [] => { expect := .done j }
  | .items js :: rest => { frames := .items (j :: js) :: rest, expect := .commaOrClose }
  | .members ms key :: rest =>
    { frames := .members ((key, j) :: ms) "" :: rest, expect := .commaOrClose }

def value? (b : Builder) (t : Token) : Option Builder :=
  match t with
  | .atom j => some (give b.frames j)
  | .text s => some (give b.frames (.str s))
  | .openArr =>
    if b.frames.length < maxOpen then
      some { frames := .items [] :: b.frames, expect := .valueOrClose }
    else none
  | .openObj =>
    if b.frames.length < maxOpen then some { b with expect := .keyOrClose [] } else none
  | _ => none

def close? (b : Builder) (t : Token) : Option Builder :=
  match b.frames, t with
  | .items js :: rest, .closeArr => some (give rest (.arr js.reverse))
  | .members ms _ :: rest, .closeObj => some (give rest (.obj ms.reverse))
  | _, _ => none

def step? (b : Builder) (t : Token) : Option Builder :=
  match b.expect, t with
  | .value, t => b.value? t
  | .valueOrClose, .closeArr => b.close? t
  | .valueOrClose, t => b.value? t
  | .commaOrClose, .comma =>
    match b.frames with
    | .items _ :: _ => some { b with expect := .value }
    | .members ms _ :: rest => some { frames := rest, expect := .key ms }
    | [] => none
  | .commaOrClose, t => b.close? t
  | .keyOrClose _, .closeObj => some (give b.frames (.obj []))
  | .keyOrClose ms, .text s => some { b with expect := .colon ms s }
  | .key ms, .text s => some { b with expect := .colon ms s }
  | .colon ms key, .colon => some { frames := .members ms key :: b.frames, expect := .value }
  | _, _ => none

end Builder

def ofTokens? (ts : List Token) : Option Json :=
  match ts.foldlM Builder.step? {} with
  | some { frames := [], expect := .done j } => some j
  | _ => none

def ofString? (s : String) : Option Json :=
  Lexer.tokens? s.toList >>= ofTokens?

def ofBytes? (bs : Bytes) : Option Json :=
  Utf8.decodeChars? bs >>= Lexer.tokens? >>= ofTokens?

end LspHost.Json
