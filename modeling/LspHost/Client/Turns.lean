import LspHost.Client.Calls

/-!
# Calls that take turns

A host that makes its calls one after another sees each through before the next one. The connection
may end between any two of them.
-/

namespace LspHost

inductive Turn where
  | didOpen (url : Url) (language text : String)
  | didChange (url : Url) (text : String)
  | didClose (url : Url)
  | openFile (t : FileTree) (path : Path)
  | disconnect

namespace Turn

def url? : Turn → Option Url
  | didOpen url _ _ => some url
  | didChange url _ => some url
  | didClose url => some url
  | openFile t path =>
    match Client.readDocument t path with
    | .ok (url, _, _) => some url
    | .error _ => none
  | disconnect => none

/-- Whether a turn matters to a document. The end of the connection matters to all of them. -/
def concerns (url : Url) : Turn → Bool
  | disconnect => true
  | turn => turn.url? = some url

end Turn

namespace Client

/-- The client after a turn, and whether a text has been sent or a document closed. -/
def turn (c : Client) : Turn → Client × Except ClientError Bool
  | .didOpen url language text => c.didOpen url language text
  | .didChange url text => (c.didChange url text).map id fun r => r.map fun _ => true
  | .didClose url => (c.didClose url).map id fun r => r.map fun _ => true
  | .openFile t path => c.openFile t path
  | .disconnect => (c.disconnect, .ok false)

def turns (c : Client) (ts : List Turn) : Client :=
  ts.foldl (fun c t => (c.turn t).1) c

end Client
end LspHost
