import LspHost.Text.Seen
import LspHost.Text.Utf8

/-!
# Quoted text

Text between double quotes, where a quote, a backslash and the characters that cannot be seen on
their own are written as escapes. Bytes that belong to no character are written as two upper-case
hexadecimal digits each.
-/

namespace LspHost.Quoted

def hexDigit (n : Nat) : Char :=
  if n < 10 then Char.ofNat (0x30 + n) else Char.ofNat (0x37 + n)

def escape (c : Char) : List Char :=
  match c with
  | '"' => ['\\', '"']
  | '\\' => ['\\', '\\']
  | '\t' => ['\\', 't']
  | '\r' => ['\\', 'r']
  | '\n' => ['\\', 'n']
  | '\x00' => ['\\', '0']
  | c => if isSeen c then [c] else ['\\', 'u', '\x7b'] ++ Nat.toDigits 16 c.toNat ++ ['\x7d']

def escapeByte (b : UInt8) : List Char :=
  ['\\', 'x', hexDigit (b.toNat / 16), hexDigit (b.toNat % 16)]

def escapePiece : Utf8.Piece → List Char
  | .char c => escape c
  | .broken bytes => bytes.flatMap escapeByte

def ofString (s : String) : String :=
  String.ofList ('"' :: s.toList.flatMap escape ++ ['"'])

def ofBytes (bs : Bytes) : String :=
  String.ofList ('"' :: (Utf8.pieces bs).flatMap escapePiece ++ ['"'])

end LspHost.Quoted
