import LspHost.Url.Domain.Name
import LspHost.Url.Percent

/-!
# Hosts

The host of a URL is a domain, an IPv4 address in dotted decimal form, or an IPv6 address in
brackets with its longest run of zeros left out. `ofDomainText?` reads the host of a special scheme,
`ofPlainText?` that of any other.
-/

namespace LspHost.Host

/-- A part of an IPv4 address: hexadecimal after `0x`, octal after `0`, else decimal. -/
def readPart? (cs : List Char) : Option Nat :=
  match cs with
  | [] => none
  | '0' :: 'x' :: rest => readDigits? 16 rest
  | '0' :: 'X' :: rest => readDigits? 16 rest
  | '0' :: rest@(_ :: _) => readDigits? 8 rest
  | cs => readDigits? 10 cs

def labels (domain : List Char) : List (List Char) :=
  match (splitChars '.' domain).reverse with
  | [] :: rest@(_ :: _) => rest.reverse
  | pieces => pieces.reverse

def endsInNumber (domain : List Char) : Bool :=
  match (labels domain).getLast? with
  | none => false
  | some [] => false
  | some last => last.all Char.isDigit ||
      match last with
      | '0' :: 'x' :: rest => (readDigits? 16 rest).isSome
      | '0' :: 'X' :: rest => (readDigits? 16 rest).isSome
      | _ => false

/-- All parts but the last are bytes; the last fills what is left of the 32 bits. -/
def ipv4? (domain : List Char) : Option Nat := do
  let parts := labels domain
  if parts.length > 4 then none
  let numbers ← parts.mapM readPart?
  let last ← numbers.getLast?
  let bytes := numbers.dropLast
  if bytes.any (255 < ·) then none
  if last ≥ Nat.pow 256 (4 - bytes.length) then none
  let high := bytes.zipIdx.map fun (b, i) => b * Nat.pow 256 (3 - i)
  some (high.foldl (· + ·) last)

def ipv4Text (n : Nat) : String :=
  ".".intercalate ([n / 0x1000000, n / 0x10000 % 256, n / 256 % 256, n % 256].map toString)

def dottedByte? (cs : List Char) : Option Nat :=
  match cs with
  | [] => none
  | ['0'] => some 0
  | '0' :: _ => none
  | cs => (readDigits? 10 cs).bind fun n => if n ≤ 255 then some n else none

/-- The words of one group; dotted bytes may stand for the last two. -/
def groupWords? (last : Bool) (cs : List Char) : Option (List Nat) :=
  if cs.contains '.' then
    if last then
      match (splitChars '.' cs).mapM dottedByte? with
      | some [a, b, c, d] => some [a * 256 + b, c * 256 + d]
      | _ => none
    else none
  else if cs = [] ∨ cs.length > 4 then none
  else (readDigits? 16 cs).map fun n => [n]

def wordsOf? : List (List Char) → Option (List Nat)
  | [] => some []
  | [g] => groupWords? true g
  | g :: gs => do
    let ws ← groupWords? false g
    let rest ← wordsOf? gs
    some (ws ++ rest)

/-- Splits at the first `::`. -/
def splitGap : List Char → Option (List Char × List Char)
  | ':' :: ':' :: rest => some ([], rest)
  | c :: rest => (splitGap rest).map fun (a, b) => (c :: a, b)
  | [] => none

def groupsOf? (cs : List Char) : Option (List Nat) :=
  if cs = [] then some [] else wordsOf? (splitChars ':' cs)

def ipv6? (cs : List Char) : Option (List Nat) :=
  match splitGap cs with
  | none => do
    let ws ← groupsOf? cs
    if ws.length = 8 then some ws else none
  | some (before, after) => do
    if before.contains '.' then none
    let a ← groupsOf? before
    let b ← groupsOf? after
    if a.length + b.length < 8 then
      some (a ++ List.replicate (8 - a.length - b.length) 0 ++ b)
    else none

/-- Start and length of each run of zero words, from position `i` on. -/
def zeroRuns (i : Nat) : Option (Nat × Nat) → List Nat → List (Nat × Nat)
  | run, [] => run.toList
  | none, w :: ws => if w = 0 then zeroRuns (i + 1) (some (i, 1)) ws else zeroRuns (i + 1) none ws
  | some (start, n), w :: ws =>
    if w = 0 then zeroRuns (i + 1) (some (start, n + 1)) ws
    else (start, n) :: zeroRuns (i + 1) none ws

def longestRun (runs : List (Nat × Nat)) : Option (Nat × Nat) :=
  (runs.filter (1 < ·.2)).foldl (fun best run =>
    match best with
    | none => some run
    | some b => if b.2 < run.2 then some run else some b) none

def hexText (n : Nat) : String :=
  String.ofList (Nat.toDigits 16 n)

def ipv6Text (ws : List Nat) : String :=
  match longestRun (zeroRuns 0 none ws) with
  | none => ":".intercalate (ws.map hexText)
  | some (start, n) =>
    ":".intercalate ((ws.take start).map hexText) ++ "::" ++
      ":".intercalate ((ws.drop (start + n)).map hexText)

def bracketed? (cs : List Char) : Option String :=
  match cs.reverse with
  | ']' :: inner => (ipv6? inner.reverse).map fun ws => "[" ++ ipv6Text ws ++ "]"
  | _ => none

def ofDomainText? (cs : List Char) : Option String :=
  match cs with
  | '[' :: rest => bracketed? rest
  | cs => do
    let decoded ← Utf8.decodeChars? (Percent.decode (Utf8.encodeChars cs))
    let domain ← Domain.toAscii? decoded
    if domain = [] then none
    if endsInNumber domain then (ipv4? domain).map ipv4Text
    else some (String.ofList domain)

def forbidden (c : Char) : Bool :=
  c.toNat = 0 || "\t\n\r #/:<>?@[\\]^|".toList.contains c

def ofPlainText? (cs : List Char) : Option String :=
  match cs with
  | '[' :: rest => bracketed? rest
  | cs =>
    if cs.any forbidden then none
    else some (String.ofList (Percent.encodeChars Percent.controls cs))

end LspHost.Host
