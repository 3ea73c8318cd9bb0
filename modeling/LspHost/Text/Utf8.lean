/-!
# Bytes and the text in them

File names, environment values and transport data are byte strings; documents and messages are
text. `Utf8.pieces` cuts a byte string into its characters and the maximal pieces that belong to no
character. `decode?` asks that there be none of the latter, `decodeLossy` shows each of them as
U+FFFD, and `encode` goes the other way.
-/

namespace LspHost

abbrev Bytes := List UInt8

namespace Utf8

def encodeChars (cs : List Char) : Bytes :=
  cs.flatMap String.utf8EncodeChar

def encode (s : String) : Bytes :=
  encodeChars s.toList

/-- One character of a byte string, or a maximal piece of bytes that is part of none. -/
inductive Piece where
  | char (c : Char)
  | broken (bytes : Bytes)
deriving Repr, DecidableEq

/-- A character whose first bytes have been read: `need` more are due after the next one, which
lies between `low` and `high`. -/
structure Pending where
  read : Bytes
  need : Nat
  code : Nat
  low : UInt8 := 0x80
  high : UInt8 := 0xBF
deriving Repr, DecidableEq

/-- What a byte that begins a new piece stands for. -/
inductive Lead where
  | char (c : Char)
  | pending (p : Pending)
  | stray
deriving Repr, DecidableEq

def lead (b : UInt8) : Lead :=
  if b < 0x80 then .char (Char.ofNat b.toNat)
  else if b < 0xC2 then .stray
  else if b < 0xE0 then .pending { read := [b], need := 0, code := b.toNat - 0xC0 }
  else if b = 0xE0 then .pending { read := [b], need := 1, code := 0, low := 0xA0 }
  else if b = 0xED then .pending { read := [b], need := 1, code := 0xD, high := 0x9F }
  else if b < 0xF0 then .pending { read := [b], need := 1, code := b.toNat - 0xE0 }
  else if b = 0xF0 then .pending { read := [b], need := 2, code := 0, low := 0x90 }
  else if b < 0xF4 then .pending { read := [b], need := 2, code := b.toNat - 0xF0 }
  else if b = 0xF4 then .pending { read := [b], need := 2, code := 4, high := 0x8F }
  else .stray

/-- The pieces of a byte string that goes on after the bytes of the pending character. -/
def piecesFrom : Option Pending → Bytes → List Piece
  | none, [] => []
  | some p, [] => [.broken p.read]
  | none, b :: rest =>
    match lead b with
    | .char c => .char c :: piecesFrom none rest
    | .pending p => piecesFrom (some p) rest
    | .stray => .broken [b] :: piecesFrom none rest
  | some p, b :: rest =>
    if p.low ≤ b ∧ b ≤ p.high then
      let code := p.code * 64 + (b.toNat - 0x80)
      match p.need with
      | 0 => .char (Char.ofNat code) :: piecesFrom none rest
      | need + 1 => piecesFrom (some { read := p.read ++ [b], need, code }) rest
    else
      .broken p.read :: match lead b with
        | .char c => .char c :: piecesFrom none rest
        | .pending q => piecesFrom (some q) rest
        | .stray => .broken [b] :: piecesFrom none rest

def pieces (bs : Bytes) : List Piece :=
  piecesFrom none bs

def Piece.char? : Piece → Option Char
  | char c => some c
  | broken _ => none

def decodeChars? (bs : Bytes) : Option (List Char) :=
  (pieces bs).mapM Piece.char?

def decode? (bs : Bytes) : Option String :=
  (decodeChars? bs).map String.ofList

def decodeLossy (bs : Bytes) : String :=
  String.ofList ((pieces bs).map (·.char?.getD '\uFFFD'))

end Utf8
end LspHost
