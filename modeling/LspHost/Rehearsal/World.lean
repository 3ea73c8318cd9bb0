import LspHost.Client.Calls
import LspHost.Client.Stop
import LspHost.FileTree.Edit
import LspHost.Rehearsal.Log
import LspHost.Rehearsal.Script
import LspHost.Watch.Notice

/-!
# A client and its server in one world

The client of a host, the server at the other end, what travels between them and what the host has
asked for. Everything happens in turns, and time stands still until nobody can do anything.
-/

namespace LspHost.Rehearsal

inductive Peer where
  | scripted
  | echo
  | absent
deriving Repr, DecidableEq

inductive Op where
  | waitReady
  | state
  | capabilities
  | serverPid
  | version (url : Url)
  | didOpen (url : Url) (language text : String)
  | didChange (url : Url) (text : String)
  | didClose (url : Url)
  | openPath (path : Path)
  | request (method : String) (params : Json) (result : Shape)
deriving Repr

abbrev CallResult := Except ClientError Json

inductive Call where
  | begun (op : Op)
  | reading (url : Url) (path : Path)
  | waiting (id deadline : Nat) (method : String) (result : Shape)
  | done (result : CallResult)
deriving Repr

def Call.result? : Call → Option CallResult
  | done r => some r
  | _ => none

/-- `peer` is who is at the other end. `passedOn` counts the messages of the client that have
reached the server, `inbox` holds those it has not looked at, `input` what the client has not read.
`answers` are kept for the requests that wait for them. Timers say when the server goes on with
something. `stopping` is what stopping waits for and how long, `consumed` that nobody can use the
client any more, `channelOpen` that events from outside are taken, `unreported` what the watcher has
seen but not told. `busy` says that something has happened in this turn. -/
structure World where
  now : Nat := 0
  tree : FileTree
  client : Client
  process : Json
  peer : Peer := .scripted
  script : Script := {}
  serverExists : Bool := false
  serverOpen : Bool := true
  passedOn : Nat := 0
  inbox : List Json := []
  input : Bytes := []
  answers : List (Nat × Except RemoteError Json) := []
  initDeadline : Nat := 0
  timers : List (Nat × Emission) := []
  calls : List Call := []
  stopping : Option (StopStage × Nat) := none
  consumed : Bool := false
  channelOpen : Bool := false
  unreported : List Notice := []
  log : Log := {}
  busy : Bool := false
deriving Repr

namespace World

def act (w : World) : World :=
  { w with busy := true }

def warn (w : World) (x : Warning) : World :=
  { w with log := { w.log with warnings := w.log.warnings ++ [x] }, busy := true }

def setClient (w : World) (c : Client) : World :=
  { w with client := c, busy := true }

def answer? (w : World) (id : Nat) : Option (Except RemoteError Json) :=
  (w.answers.find? (·.1 = id)).map Prod.snd

end World
end LspHost.Rehearsal
