import LspHost.ClientError
import LspHost.Client.Outgoing

/-!
# Open documents

The documents that a client has opened, each with the version of the text it sent last. An operation
looks a document up, changes the table and hands over a message, which fails once the connection is
over. Opening a document that is open already sends its text as a change. Closing takes the document
out of the table first and tells the server in a step of its own.
-/

namespace LspHost

structure Documents where
  versions : List (Url × Int32) := []
deriving Repr, DecidableEq

namespace Documents

def version? (d : Documents) (url : Url) : Option Int32 :=
  (d.versions.find? (·.1 = url)).map Prod.snd

def setVersion (url : Url) (v : Int32) : List (Url × Int32) → List (Url × Int32)
  | [] => [(url, v)]
  | (u, w) :: rest => if u = url then (url, v) :: rest else (u, w) :: setVersion url v rest

def insert (d : Documents) (url : Url) (v : Int32) : Documents :=
  ⟨setVersion url v d.versions⟩

def erase (d : Documents) (url : Url) : Documents :=
  ⟨d.versions.filter (·.1 ≠ url)⟩

/-- What an operation leaves behind: the table, the messages handed over and the result. -/
structure Outcome (α : Type) where
  documents : Documents
  sent : List Outgoing
  result : Except ClientError α

def serviceStopped : String := "service stopped"

def hand {α : Type} (d : Documents) (connected : Bool) (name : String) (m : Outgoing) (value : α) :
    Outcome α :=
  if connected then { documents := d, sent := [m], result := .ok value }
  else
    { documents := d, sent := []
      result := .error (.requestFailed (name ++ " notification failed: " ++ serviceStopped)) }

def notOpen (url : Url) : ClientError :=
  .documentNotFound ("document not open: " ++ url.text)

/-- The next version of an open document with a new text. -/
def sendChange {α : Type} (d : Documents) (connected : Bool) (url : Url) (last : Int32)
    (text : String) (value : α) : Outcome α :=
  let version := last + 1
  (d.insert url version).hand connected "didChange" (.didChange url version text) value

def openText (d : Documents) (connected : Bool) (url : Url) (language text : String) :
    Outcome Bool :=
  match d.version? url with
  | some last => d.sendChange connected url last text true
  | none =>
    let out := d.hand connected "didOpen" (.didOpen url language 1 text) true
    { out with documents := if connected then d.insert url 1 else d }

def changeText (d : Documents) (connected : Bool) (url : Url) (text : String) : Outcome Unit :=
  match d.version? url with
  | some last => d.sendChange connected url last text ()
  | none => { documents := d, sent := [], result := .error (notOpen url) }

def take (d : Documents) (url : Url) : Except ClientError Documents :=
  match d.version? url with
  | some _ => .ok (d.erase url)
  | none => .error (notOpen url)

def sendClose (d : Documents) (connected : Bool) (url : Url) : Outcome Unit :=
  d.hand connected "didClose" (.didClose url) ()

end Documents
end LspHost
