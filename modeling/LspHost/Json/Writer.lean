import LspHost.Json.Number
import LspHost.Text.Utf8

/-!
# Writing JSON

Compact text has no blanks. Indented text puts every item and member on a line of its own, two
blanks deeper than what it is part of.
-/

namespace LspHost.Json

def hexDigitLower (n : Nat) : Char :=
  if n < 10 then Char.ofNat (0x30 + n) else Char.ofNat (0x57 + n)

def escapeChar (c : Char) : List Char :=
  match c with
  | '"' => ['\\', '"']
  | '\\' => ['\\', '\\']
  | '\x08' => ['\\', 'b']
  | '\x0c' => ['\\', 'f']
  | '\n' => ['\\', 'n']
  | '\r' => ['\\', 'r']
  | '\t' => ['\\', 't']
  | c =>
    if c.toNat < 0x20 then
      ['\\', 'u', '0', '0', hexDigitLower (c.toNat / 16), hexDigitLower (c.toNat % 16)]
    else [c]

def quote (s : String) : String :=
  String.ofList ('"' :: s.toList.flatMap escapeChar ++ ['"'])

def atomText : Json → String
  | null => "null"
  | bool true => "true"
  | bool false => "false"
  | int n => toString n
  | double d => if d.isFinite then doubleText d else "null"
  | str s => quote s
  | arr _ => "[]"
  | obj _ => "\x7b\x7d"

mutual

def compact : Json → String
  | arr items => "[" ++ ",".intercalate (compactItems items) ++ "]"
  | obj members => "\x7b" ++ ",".intercalate (compactMembers members) ++ "\x7d"
  | j => atomText j

def compactItems : List Json → List String
  | [] => []
  | j :: js => compact j :: compactItems js

def compactMembers : List (String × Json) → List String
  | [] => []
  | (k, j) :: rest => (quote k ++ ":" ++ compact j) :: compactMembers rest

end

def indentation (depth : Nat) : String :=
  String.ofList ('\n' :: List.replicate (2 * depth) ' ')

mutual

def indentedAt (depth : Nat) : Json → String
  | arr [] => "[]"
  | arr items =>
    "[" ++ ",".intercalate (indentedItems (depth + 1) items) ++ indentation depth ++ "]"
  | obj [] => "\x7b\x7d"
  | obj members =>
    "\x7b" ++ ",".intercalate (indentedMembers (depth + 1) members) ++ indentation depth ++ "\x7d"
  | j => atomText j

def indentedItems (depth : Nat) : List Json → List String
  | [] => []
  | j :: js => (indentation depth ++ indentedAt depth j) :: indentedItems depth js

def indentedMembers (depth : Nat) : List (String × Json) → List String
  | [] => []
  | (k, j) :: rest =>
    (indentation depth ++ quote k ++ ": " ++ indentedAt depth j) :: indentedMembers depth rest

end

def indented (j : Json) : String :=
  indentedAt 0 j

end LspHost.Json
