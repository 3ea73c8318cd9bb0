import LspHost.Text.Utf8

/-!
# Percent-encoding

A byte is written as itself or, if it belongs to the set that the part of the URL escapes, as `%`
and two upper-case hexadecimal digits. All sets hold the controls and the bytes from 0x7F on.
-/

namespace LspHost.Percent

abbrev ByteSet := UInt8 → Bool

def hexDigit (n : Nat) : Char :=
  if n < 10 then Char.ofNat (0x30 + n) else Char.ofNat (0x37 + n)

def encodeByte (escaped : ByteSet) (b : UInt8) : List Char :=
  if escaped b then ['%', hexDigit (b.toNat / 16), hexDigit (b.toNat % 16)]
  else [Char.ofNat b.toNat]

def encode (escaped : ByteSet) (bs : Bytes) : List Char :=
  bs.flatMap (encodeByte escaped)

def encodeChars (escaped : ByteSet) (cs : List Char) : List Char :=
  encode escaped (Utf8.encodeChars cs)

def hexValue? (b : UInt8) : Option UInt8 :=
  if 0x30 ≤ b ∧ b ≤ 0x39 then some (b - 0x30)
  else if 0x41 ≤ b ∧ b ≤ 0x46 then some (b - 0x37)
  else if 0x61 ≤ b ∧ b ≤ 0x66 then some (b - 0x57)
  else none

def decode : Bytes → Bytes
  | 0x25 :: x :: y :: rest =>
    match hexValue? x, hexValue? y with
    | some hi, some lo => (hi * 16 + lo) :: decode rest
    | _, _ => 0x25 :: decode (x :: y :: rest)
  | b :: rest => b :: decode rest
  | [] => []

def controls : ByteSet := fun b =>
  b < 0x20 || 0x7F ≤ b

def ofChars (cs : String) : ByteSet := fun b =>
  cs.toList.any (·.toNat = b.toNat)

def union (s t : ByteSet) : ByteSet := fun b =>
  s b || t b

def fragment : ByteSet := union controls (ofChars " \"<>`")
def query : ByteSet := union controls (ofChars " \"#<>")
def specialQuery : ByteSet := union query (ofChars "'")
def path : ByteSet := union fragment (ofChars "#?\x7b\x7d")
def userinfo : ByteSet := union path (ofChars "/:;=@[\\]^|")

def fileName : ByteSet := union path (ofChars "/%\\")

end LspHost.Percent
