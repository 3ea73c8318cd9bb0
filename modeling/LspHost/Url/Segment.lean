import LspHost.Url.Percent

/-!
# Path segments of a URL

The path of a URL is built up segment by segment. A segment `..` takes back the one before it, a
segment `.` names nothing, and both may be written with `%2e`. In `file` URLs the first segment may
be a drive letter, which no `..` takes back; it is written with a colon.
-/

namespace LspHost.Url

/-- What a scheme means for the rest of its URLs. -/
inductive SchemeKind where
  | file
  | special
  | plain
deriving Repr, DecidableEq

def SchemeKind.ofScheme (scheme : String) : SchemeKind :=
  if scheme = "file" then .file
  else if ["http", "https", "ws", "wss", "ftp"].contains scheme then .special
  else .plain

/-- Whether a backslash separates like a slash. -/
def SchemeKind.isSpecial : SchemeKind → Bool
  | plain => false
  | _ => true

def SchemeKind.isSeparator (kind : SchemeKind) (c : Char) : Bool :=
  c = '/' || (kind.isSpecial && c = '\\')

def isDriveLetter : List Char → Bool
  | [c, d] => c.isAlpha && (d = ':' || d = '|')
  | _ => false

def isNormalDriveLetter : List Char → Bool
  | [c, ':'] => c.isAlpha
  | _ => false

/-- Whether the text begins with a drive letter that is a whole segment. -/
def startsWithDriveLetter : List Char → Bool
  | [c, d] => isDriveLetter [c, d]
  | c :: d :: e :: _ => isDriveLetter [c, d] && (e = '/' || e = '\\' || e = '?' || e = '#')
  | _ => false

def isDoubleDot (segment : List Char) : Bool :=
  ["..", "%2e.", ".%2e", "%2e%2e"].contains (String.ofList (segment.map Char.toLower))

def isSingleDot (segment : List Char) : Bool :=
  [".", "%2e"].contains (String.ofList (segment.map Char.toLower))

/-- The path up to and with its last slash. -/
def throughLastSlash (path : List Char) : List Char :=
  (path.reverse.dropWhile (· ≠ '/')).reverse

def afterLastSlash (path : List Char) : List Char :=
  (path.reverse.takeWhile (· ≠ '/')).reverse

/-- Removes a last slash that ends a segment other than a drive letter. -/
def dropLastSlash (path : List Char) : List Char :=
  if path.getLast? = some '/' then
    let before := path.dropLast
    let ended := afterLastSlash before ++ ['/']
    if before.contains '/' && !startsWithDriveLetter ended then before else path
  else path

/-- Removes the last segment, but never the drive letter of a file. -/
def dropLastSegment (kind : SchemeKind) (path : List Char) : List Char :=
  if kind = .file ∧ isNormalDriveLetter (afterLastSlash path) then path
  else throughLastSlash path

/-- One more segment, `ended` telling whether a slash follows it. -/
def addSegment (kind : SchemeKind) (path segment : List Char) (ended : Bool) : List Char :=
  let tail := if ended then ['/'] else []
  if isDoubleDot segment then
    let shorter := dropLastSegment kind (dropLastSlash path)
    if ended && shorter.getLast? ≠ some '/' then shorter ++ ['/'] else shorter
  else if isSingleDot segment then
    if path.getLast? = some '/' then path else path ++ ['/']
  else if kind = .file ∧ path = ['/'] ∧ isDriveLetter segment then
    '/' :: segment.take 1 ++ ':' :: tail
  else path ++ segment ++ tail

def segments (kind : SchemeKind) : List Char → List (List Char)
  | [] => [[]]
  | c :: rest =>
    if kind.isSeparator c then [] :: segments kind rest
    else match segments kind rest with
      | [] => [[c]]
      | s :: ss => (c :: s) :: ss

def addSegments (kind : SchemeKind) (path : List Char) : List (List Char) → List Char
  | [] => path
  | [s] => addSegment kind path (Percent.encodeChars Percent.path s) false
  | s :: ss => addSegments kind (addSegment kind path (Percent.encodeChars Percent.path s) true) ss

/-- Continues `path` with the path written as `input`. -/
def addPath (kind : SchemeKind) (path input : List Char) : List Char :=
  addSegments kind path (segments kind input)

/-- Whether the first segment of a path is a drive letter. -/
def beginsWithDrive (path : List Char) : Bool :=
  match path with
  | '/' :: rest => isNormalDriveLetter (rest.takeWhile (· ≠ '/'))
  | _ => false

end LspHost.Url
