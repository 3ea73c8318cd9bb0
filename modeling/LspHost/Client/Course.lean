import LspHost.Client.Calls
import LspHost.Client.Stop
import LspHost.Client.Watching

/-!
# Courses of events

A client is used by its host, by the first exchange, by the forwarder of file events, by the
connection and by whoever stops it, all at the same time. A course is the client together with the
calls of the host and the stage that stopping has reached. A happening is what one of the parties
does between two points at which it can be overtaken. Happenings may come in any order, and one that
does not fit the moment changes nothing.
-/

namespace LspHost

/-- What a host asks of a client that may lead to a message. -/
inductive Ask where
  | openText (url : Url) (language text : String)
  | changeText (url : Url) (text : String)
  | close (url : Url)
  | request (method : String) (params : Json)
deriving Repr

/-- How far a call has come. A call that is `ready` has found the client running and waits for the
table of documents; one that is `closing` has taken its document out and let go of the table. -/
inductive Call where
  | seeking (path : Path)
  | reading (url : Url) (path : Path)
  | asked (a : Ask)
  | ready (a : Ask)
  | closing (url : Url)
  | returned (r : Except ClientError Bool)
  | dropped
deriving Repr

namespace Call

def isOver : Call → Bool
  | returned _ => true
  | dropped => true
  | _ => false

/-- Whether the call may still lead to a message without looking at the client's state again. -/
def isUnderWay : Call → Bool
  | ready _ => true
  | closing _ => true
  | _ => false

end Call

namespace Client

def enter (c : Client) (a : Ask) : Call :=
  match c.readiness with
  | .waiting => .asked a
  | .ready => .ready a
  | .refused e => .returned (.error e)

/-- The part of a call that holds the table of documents. A request needs no table, and what is left
of it once it has been sent is waiting for the answer. -/
def act (c : Client) : Ask → Client × Call
  | .openText url language text => (c.openText url language text).map id .returned
  | .changeText url text =>
    (c.changeText url text).map id fun r => .returned (r.map fun _ => true)
  | .close url =>
    match c.takeDocument url with
    | (c, .ok ()) => (c, .closing url)
    | (c, .error e) => (c, .returned (.error e))
  | .request method params =>
    match c.sendRequest method params with
    | .ok (c, _) => (c, .returned (.ok true))
    | .error e => (c, .returned (.error e))

/-- A call goes on up to the next point at which it can be overtaken. -/
def advance (c : Client) (t : FileTree) : Call → Client × Call
  | .seeking path =>
    match Document.urlOfPath t path with
    | .ok url => (c, .reading url path)
    | .error e => (c, .returned (.error e))
  | .reading url path =>
    match Document.readText t path with
    | .ok text => (c, .asked (.openText url (Document.languageOf path) text))
    | .error e => (c, .returned (.error e))
  | .asked (.openText url language text) =>
    if c.selects url language then (c, c.enter (.openText url language text))
    else (c, .returned (.ok false))
  | .asked a => (c, c.enter a)
  | .ready a => c.act a
  | .closing url => (c.sendClose url).map id fun r => .returned (r.map fun _ => true)
  | call => (c, call)

/-- The forwarder, while events are passed on. -/
def forwarding? (c : Client) : Option Forwarder :=
  match c.session with
  | some { handshake := .forwarding, forwarder, .. } => forwarder
  | _ => none

def setForwarder (c : Client) (f : Forwarder) : Client :=
  c.editSession fun s => { s with forwarder := some f }

def sendBatch (c : Client) (f : Forwarder) : Client :=
  (c.setForwarder f.release.1).forward f.release.2

/-- The watcher's handler: events that came together are merged, and queued unless none is left. -/
def report (c : Client) (events : List FileEvent) : Client :=
  match FileEvent.coalesce events with
  | [] => c
  | events => c.queueEvents events

def hearAnswer (c : Client) (answer : Except RemoteError Json) : Client :=
  match c.session with
  | some { handshake := .waiting _, .. } =>
    match decodeAnswer Protocol.initializeResult answer with
    | .ok result => c.announce ((result.get? "capabilities").getD .null)
    | .error _ => c.failHandshake
  | _ => c

/-- The first request stays without an answer, for lack of time or of a connection. -/
def missAnswer (c : Client) : Client :=
  match c.session with
  | some { handshake := .waiting _, .. } => c.failHandshake
  | _ => c

end Client

inductive Happening where
  | startOver (t : FileTree) (root : Path) (notifier : Notifier := .ofTree t)
  | start (t : FileTree) (host : Environment) (spawn : Invocation → Except SystemError Unit)
    (root : Path) (notifier : Notifier := .ofTree t)
  | ask (a : Ask)
  | askFile (path : Path)
  | goOn (t : FileTree) (i : Nat)
  | giveUp (i : Nat)
  | greet (process : Json)
  | answer (answer : Except RemoteError Json)
  | noAnswer
  | record
  | promote
  | report (events : List FileEvent)
  | take
  | gather
  | send
  | disconnect
  | fail
  | stop
  | waited (wait : Wait)

structure Course where
  client : Client
  calls : List Call := []
  stopping : Option StopStage := none
deriving Repr

namespace Course

def ofSettings (settings : ClientSettings) : Course :=
  { client := { settings } }

def setClient (s : Course) (c : Client) : Course :=
  { s with client := c }

def goOn (s : Course) (t : FileTree) (i : Nat) : Course :=
  match s.calls[i]? with
  | some call =>
    let (client, call) := s.client.advance t call
    { s with client, calls := s.calls.set i call }
  | none => s

/-- The host drops a call, which it can do wherever the call waits for something. -/
def giveUp (s : Course) (i : Nat) : Course :=
  match s.calls[i]? with
  | some (.closing _) => s
  | some _ => { s with calls := s.calls.set i .dropped }
  | none => s

/-- The host gives its client away to stop it, so that no call can be under way then. -/
def stop (s : Course) : Course :=
  if s.stopping.isNone ∧ s.calls.all Call.isOver then
    { s with client := s.client.beginStop.1, stopping := some s.client.beginStop.2 }
  else s

def waited (s : Course) (wait : Wait) : Course :=
  match s.stopping with
  | some stage =>
    let (client, stage) := s.client.advanceStop stage wait
    { s with client, stopping := some stage }
  | none => s

def forward (s : Course) (move : Forwarder → Client) : Course :=
  match s.client.forwarding? with
  | some f => s.setClient (move f)
  | none => s

def step (s : Course) : Happening → Course
  | .startOver tree root notifier => s.setClient (s.client.start { tree, root, notifier }).1
  | .start tree host spawn root notifier =>
    s.setClient (s.client.start { tree, root, notifier, host, spawn }).1
  | .ask a => { s with calls := s.calls ++ [.asked a] }
  | .askFile path => { s with calls := s.calls ++ [.seeking path] }
  | .goOn t i => s.goOn t i
  | .giveUp i => s.giveUp i
  | .greet process => s.setClient (s.client.sendInitialize process)
  | .answer answer => s.setClient (s.client.hearAnswer answer)
  | .noAnswer => s.setClient s.client.missAnswer
  | .record => s.setClient s.client.recordCapabilities
  | .promote => s.setClient s.client.promote
  | .report events => s.setClient (s.client.report events)
  | .take => s.forward fun f => s.client.setForwarder f.take
  | .gather => s.forward fun f => s.client.setForwarder f.gather
  | .send => s.forward s.client.sendBatch
  | .disconnect => s.setClient s.client.disconnect
  | .fail => if s.client.isConnected then s else s.setClient s.client.markFailed
  | .stop => s.stop
  | .waited wait => s.waited wait

def run (s : Course) (hs : List Happening) : Course :=
  hs.foldl step s

end Course
end LspHost
