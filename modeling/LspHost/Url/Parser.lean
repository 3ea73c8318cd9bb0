import LspHost.Url.Basic
import LspHost.Url.Host
import LspHost.Url.Segment

/-!
# Reading URLs

Blanks and controls at the ends and tabs and line ends anywhere are passed over. A scheme decides
how the rest is cut: special schemes and those followed by two slashes have an authority, a `file`
may have a host, and any other rest is a path that begins with a slash or has no structure at all.
-/

namespace LspHost.Url

def isEdge (c : Char) : Bool :=
  c.toNat ≤ 0x20

def isIgnored (c : Char) : Bool :=
  c = '\t' || c = '\n' || c = '\r'

def trim (cs : List Char) : List Char :=
  ((cs.dropWhile isEdge).reverse.dropWhile isEdge).reverse

def isSchemeChar (c : Char) : Bool :=
  c.isAlphanum || c = '+' || c = '-' || c = '.'

def isEnd (c : Char) : Bool :=
  c = '?' || c = '#'

def scheme? (cs : List Char) : Option (String × List Char) :=
  match cs.head?, cs.dropWhile isSchemeChar with
  | some c, ':' :: rest =>
    if c.isAlpha then
      some (String.ofList ((cs.takeWhile isSchemeChar).map Char.toLower), rest)
    else none
  | _, _ => none

/-- Query and fragment as written, from the `?` or `#` that begins them. -/
def splitTail (cs : List Char) : Option (List Char) × Option (List Char) :=
  match cs with
  | '?' :: rest =>
    match rest.dropWhile (· ≠ '#') with
    | [] => (some rest, none)
    | _ :: f => (some (rest.takeWhile (· ≠ '#')), some f)
  | '#' :: f => (none, some f)
  | _ => (none, none)

def finish (kind : SchemeKind) (scheme : String) (authority : Option Authority)
    (path tail : List Char) : Url :=
  let querySet := if kind = .plain then Percent.query else Percent.specialQuery
  let (query, fragment) := splitTail tail
  { scheme, authority
    path := String.ofList path
    query := query.map fun q => String.ofList (Percent.encodeChars querySet q)
    fragment := fragment.map fun f => String.ofList (Percent.encodeChars Percent.fragment f) }

/-- Whether the character ends the part of a URL before its path. -/
def isBoundary (kind : SchemeKind) (c : Char) : Bool :=
  kind.isSeparator c || isEnd c

/-- What stands before the last `@` ahead of the path, if there is one, and what follows it. -/
def splitCredentials (kind : SchemeKind) (cs : List Char) : Option (List Char) × List Char :=
  let (written, rest) := cs.span (!isBoundary kind ·)
  match written.reverse.dropWhile (· ≠ '@') with
  | [] => (none, cs)
  | _ :: before => (some before.reverse, (written.reverse.takeWhile (· ≠ '@')).reverse ++ rest)

def encodedCredential (cs : List Char) : String :=
  String.ofList (Percent.encodeChars Percent.userinfo cs)

/-- User and password; an empty password is none. -/
def credentials (cs : List Char) : String × Option String :=
  let user := encodedCredential (cs.takeWhile (· ≠ ':'))
  match cs.dropWhile (· ≠ ':') with
  | [] => (user, none)
  | [_] => (user, none)
  | _ :: password => (user, some (encodedCredential password))

/-- The host, which ends at a colon outside brackets, and what follows it. -/
def splitHost (kind : SchemeKind) : Bool → List Char → List Char × List Char
  | _, [] => ([], [])
  | inside, c :: rest =>
    if (c = ':' && !inside) || isBoundary kind c then ([], c :: rest)
    else
      let inside := if c = '[' then true else if c = ']' then false else inside
      let (host, after) := splitHost kind inside rest
      (c :: host, after)

def defaultPort? (scheme : String) : Option Nat :=
  match scheme with
  | "http" => some 80
  | "https" => some 443
  | "ws" => some 80
  | "wss" => some 443
  | "ftp" => some 21
  | _ => none

/-- Whether the port may end before the character; a backslash ends it in any scheme. -/
def endsPort (c : Char) : Bool :=
  isBoundary .special c

/-- The port, and what follows it. An empty one and the scheme's own are none. -/
def splitPort? (scheme : String) (cs : List Char) : Option (Option Nat × List Char) :=
  match cs with
  | ':' :: rest =>
    let (digits, after) := rest.span Char.isDigit
    if !after.head?.all endsPort then none
    else if digits = [] then some (none, after)
    else (readDigits? 10 digits).bind fun n =>
      if n > 65535 then none
      else some (if defaultPort? scheme = some n then none else some n, after)
  | cs => some (none, cs)

/-- The authority and what follows it. Credentials and a port need a host. -/
def splitAuthority? (kind : SchemeKind) (scheme : String) (cs : List Char) :
    Option (Authority × List Char) := do
  let (given, rest) := splitCredentials kind cs
  if given = some [] ∧ rest.head?.any (isBoundary kind) then none
  let (user, password) := (given.map credentials).getD ("", none)
  let (hostText, rest) := splitHost kind false rest
  if hostText = [] ∧
      (kind.isSpecial ∨ rest.head? = some ':' ∨ user ≠ "" ∨ password.isSome) then none
  let host ← if kind.isSpecial then Host.ofDomainText? hostText else Host.ofPlainText? hostText
  let (port, rest) ← splitPort? scheme rest
  some ({ user, password, host, port }, rest)

def afterSlashes? (kind : SchemeKind) (scheme : String) (cs : List Char) : Option Url := do
  let (authority, rest) ← splitAuthority? kind scheme cs
  let (pathText, tail) := rest.span (!isEnd ·)
  let path := match pathText with
    | [] => if kind.isSpecial then ['/'] else []
    | c :: cs => addPath kind ['/'] (if kind.isSeparator c then cs else pathText)
  some (finish kind scheme (some authority) path tail)

def fileHost? (cs : List Char) : Option String :=
  if cs = [] then some ""
  else (Host.ofDomainText? cs).map fun host => if host = "localhost" then "" else host

/-- The URL of a file whose path has been read; it begins with exactly one slash. -/
def finishFile (host : String) (path tail : List Char) : Url :=
  finish .file "file" (some { host }) ('/' :: path.dropWhile (· = '/')) tail

/-- What follows the two slashes of a file URL. A path that begins with a drive letter leaves no
host. Where there is no host to begin with, the slash that ends it makes an empty segment, and what
comes next is not in the place of a drive letter. -/
def fileAfterSlashes? (cs : List Char) : Option Url := do
  let (written, after) := cs.span (!isBoundary .file ·)
  if isDriveLetter written then
    let (pathText, tail) := cs.span (!isEnd ·)
    some (finishFile "" (addPath .file ['/'] pathText) tail)
  else
    let host ← fileHost? written
    let (pathText, tail) := after.span (!isEnd ·)
    let path := addPath .file ['/'] (if host = "" then pathText else pathText.drop 1)
    some (finishFile (if beginsWithDrive path then "" else host) path tail)

def ofFileRest? (cs : List Char) : Option Url :=
  let (pathText, tail) := cs.span (!isEnd ·)
  match pathText with
  | c :: d :: rest =>
    if !SchemeKind.file.isSeparator c then some (finishFile "" (addPath .file ['/'] pathText) tail)
    else if SchemeKind.file.isSeparator d then fileAfterSlashes? (rest ++ tail)
    else some (finishFile "" (addPath .file ['/'] (d :: rest)) tail)
  | [c] =>
    let pathText := if SchemeKind.file.isSeparator c then [] else [c]
    some (finishFile "" (addPath .file ['/'] pathText) tail)
  | [] => some (finishFile "" ['/'] tail)

def ofPlainRest? (scheme : String) (cs : List Char) : Option Url :=
  match cs with
  | '/' :: '/' :: rest => afterSlashes? .plain scheme rest
  | '/' :: rest =>
    let (pathText, tail) := rest.span (!isEnd ·)
    some (finish .plain scheme none (addPath .plain ['/'] pathText) tail)
  | cs =>
    let (pathText, tail) := cs.span (!isEnd ·)
    some (finish .plain scheme none (Percent.encodeChars Percent.controls pathText) tail)

def ofString? (s : String) : Option Url := do
  let cs := (trim s.toList).filter (!isIgnored ·)
  let (scheme, rest) ← scheme? cs
  match SchemeKind.ofScheme scheme with
  | .file => ofFileRest? rest
  | .special => afterSlashes? .special scheme (rest.dropWhile SchemeKind.special.isSeparator)
  | .plain => ofPlainRest? scheme rest

end LspHost.Url
