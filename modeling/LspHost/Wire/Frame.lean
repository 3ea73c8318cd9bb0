import LspHost.Json.Writer
import LspHost.Text.Digits

/-!
# Frames

A message travels as header lines, an empty line and a body whose length a header gives. Lines end
with a carriage return and a line feed. What has arrived may not be enough for a message yet; if
nothing more will come, that is an end of the connection, and so is anything ill-formed. A body that
no memory has room for cannot even be waited for.
-/

namespace LspHost

inductive Closure where
  | eof
  | io
  | protocol
  | deserialize
deriving Repr, DecidableEq

def Closure.text : Closure → String
  | eof => "Eof"
  | io => "Io"
  | protocol => "Protocol"
  | deserialize => "Deserialize"

namespace Frame

inductive Reading where
  | waiting
  | body (bytes rest : Bytes)
  | broken (c : Closure)
  | overlong
deriving Repr, DecidableEq

def splitLine : Bytes → Option (Bytes × Bytes)
  | [] => none
  | b :: rest =>
    if b = 0x0A then some ([b], rest)
    else (splitLine rest).map fun (line, after) => (b :: line, after)

/-- Name and value around the first colon that a blank follows. -/
def splitHeader : List Char → Option (List Char × List Char)
  | ':' :: ' ' :: rest => some ([], rest)
  | c :: rest => (splitHeader rest).map fun (name, value) => (c :: name, value)
  | [] => none

/-- The most bytes that memory can be asked for at once. -/
def maxBody : Nat := 0x7FFFFFFFFFFFFFFF

inductive Line where
  | last
  | header (length : Option Nat)
deriving Repr, DecidableEq

def endOfLine : List Char := ['\r', '\n']

/-- The text of a line without the two characters that end it. -/
def stripEnd? (cs : List Char) : Option (List Char) :=
  if endOfLine.isSuffixOf cs then some (cs.take (cs.length - 2)) else none

def readLine (line : Bytes) : Except Closure Line :=
  match Utf8.decodeChars? line with
  | none => .error .io
  | some cs =>
    if cs = endOfLine then .ok .last
    else match (stripEnd? cs).bind splitHeader with
      | none => .error .protocol
      | some (name, value) =>
        if name.map Char.toLower = "content-length".toList then
          match readWord? value with
          | some n => .ok (.header (some n))
          | none => .error .protocol
        else .ok (.header none)

/-- Reads headers and then the body. The last length counts. -/
def readFrom (closed : Bool) (length : Option Nat) : Nat → Bytes → Reading
  | 0, _ => .waiting
  | fuel + 1, input =>
    match splitLine input with
    | none =>
      if !closed then .waiting
      else if input = [] then .broken .eof
      else match readLine input with
        | .error c => .broken c
        | .ok _ => .broken .eof
    | some (line, rest) =>
      match readLine line with
      | .error c => .broken c
      | .ok (.header none) => readFrom closed length fuel rest
      | .ok (.header (some n)) => readFrom closed (some n) fuel rest
      | .ok .last =>
        match length with
        | none => .broken .protocol
        | some n =>
          if maxBody < n then .overlong
          else if n ≤ rest.length then .body (rest.take n) (rest.drop n)
          else if closed then .broken .io
          else .waiting

def read (closed : Bool) (input : Bytes) : Reading :=
  readFrom closed none (input.length + 1) input

def write (j : Json) : Bytes :=
  let body := Utf8.encode j.compact
  Utf8.encode ("Content-Length: " ++ toString body.length ++ "\r\n\r\n") ++ body

end Frame
end LspHost
