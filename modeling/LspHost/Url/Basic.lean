import LspHost.Path.Basic
import LspHost.Url.Percent

/-!
# URLs

A URL in its parts, each already in the form in which it is written. Two URLs are the same document
exactly when their parts agree, and `text` writes the parts out. `ofFilePath?` gives the `file` URL
of an absolute path.
-/

namespace LspHost

structure Url.Authority where
  user : String := ""
  password : Option String := none
  host : String := ""
  port : Option Nat := none
deriving Repr, DecidableEq

structure Url where
  scheme : String
  authority : Option Url.Authority
  path : String
  query : Option String := none
  fragment : Option String := none
deriving Repr, DecidableEq

namespace Url

def Authority.text (a : Authority) : String :=
  let credentials := match a.user, a.password with
    | "", none => ""
    | user, none => user ++ "@"
    | user, some password => user ++ ":" ++ password ++ "@"
  let port := match a.port with
    | none => ""
    | some n => ":" ++ toString n
  "//" ++ credentials ++ a.host ++ port

/-- A path that begins with two slashes and follows no authority is written after `/.`, so that it
is not read as one. -/
def text (u : Url) : String :=
  let authority := match u.authority with
    | some a => a.text
    | none => if u.path.startsWith "//" then "/." else ""
  let query := match u.query with
    | none => ""
    | some q => "?" ++ q
  let fragment := match u.fragment with
    | none => ""
    | some f => "#" ++ f
  u.scheme ++ ":" ++ authority ++ u.path ++ query ++ fragment

def filePath (components : List Path.Component) : List Char :=
  match components with
  | [] => ['/']
  | cs => cs.flatMap fun c => '/' :: Percent.encode Percent.fileName c.bytes

def ofFilePath? (p : Path) : Option Url :=
  if p.isAbsolute then
    some
      { scheme := "file"
        authority := some {}
        path := String.ofList (filePath (p.components.drop 1)) }
  else none

end Url
end LspHost
