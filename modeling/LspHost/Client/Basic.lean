import LspHost.Client.Documents
import LspHost.Launch.Executable
import LspHost.Protocol.Initialize
import LspHost.Watch.Forwarder
import LspHost.Watch.Watcher

/-!
# Clients

A client is bound to one server. It has a state of life, the capabilities that the server answered
with, a table of open documents and, once started, a session. `wire` is everything it has handed
over for the server, in order.

Starting checks everything that can fail before it changes anything: whether the client is idle, the
workspace root, the watched glob and watcher, and the server process.
-/

namespace LspHost

structure ClientSettings where
  id : String
  name : String
  server : ServerOptions
  options : ClientOptions
  debug : Bool := false
  timeouts : Timeouts := {}
deriving Repr, DecidableEq

/-- How far the first exchange has come. Once it is over, `forwarding` says that it succeeded and
that file events are passed on. -/
inductive Handshake where
  | unsent
  | waiting (id : Nat)
  | announced (capabilities : Json)
  | recorded
  | forwarding
  | ended
deriving Repr

inductive Child where
  | running
  | exited
  | killed
deriving Repr, DecidableEq

/-- What a client is started with. On a host with environment `host` the server's command is run by
`spawn`, unless there is a transport already. -/
structure Attempt where
  tree : FileTree
  root : Path
  notifier : Notifier := .ofTree tree
  host : Environment := .empty
  spawn : Option (Invocation → Except SystemError Unit) := none

structure Session where
  root : Path
  url : Url
  connected : Bool := true
  child : Option Child := none
  handshake : Handshake := .unsent
  nextId : Nat := 0
  watcher : Option Watcher := none
  forwarder : Option Forwarder := none
deriving Repr

structure Client where
  settings : ClientSettings
  life : Lifecycle := .idle
  capabilities : Option Json := none
  documents : Documents := {}
  session : Option Session := none
  wire : List Outgoing := []
deriving Repr

namespace Client

def isConnected (c : Client) : Bool :=
  c.session.any (·.connected)

def editSession (c : Client) (f : Session → Session) : Client :=
  { c with session := c.session.map f }

def prepare (c : Client) (t : FileTree) (root : Path) : Except ClientError (Path × Url) := do
  if c.session.isSome ∨ c.life ≠ .idle then .error .alreadyStarted
  match t.canonicalize root with
  | .error e =>
    .error (.initializationFailed ("failed to canonicalize workspace root: " ++ e.message))
  | .ok root =>
    match Url.ofFilePath? root with
    | some url => .ok (root, url)
    | none => .error (.initializationFailed ("invalid workspace root path: " ++ root.text))

def spawnWatcher (c : Client) (notifier : Notifier) (root : Path) :
    Except ClientError (Option Watcher) :=
  match c.settings.options.synchronize with
  | none => .ok none
  | some sync => (Watcher.spawnBy notifier root sync.glob).map some

def executable (c : Client) : Executable :=
  c.settings.server.select c.settings.debug

/-- The server process, running in the workspace. -/
def spawnServer (c : Client) (host : Environment)
    (spawn : Option (Invocation → Except SystemError Unit)) (root : Path) :
    Except ClientError (Option Child) :=
  match spawn with
  | none => .ok none
  | some spawn =>
    match spawn (c.executable.invocation host root) with
    | .error e =>
      .error (.serverStartFailed
        ("failed to spawn '" ++ c.executable.command ++ "': " ++ e.message))
    | .ok () => .ok (some .running)

def connect (c : Client) (root : Path) (url : Url) (child : Option Child)
    (watcher : Option Watcher) : Client :=
  { c with
    life := .starting
    session := some { root, url, child, watcher, forwarder := watcher.map fun _ => {} } }

/-- Starting as a sequence of steps. A step that fails leaves the client as the steps before it have
left it. -/
def starting (a : Attempt) : EStateM ClientError Client Unit := do
  let c ← get
  let (root, url) ← ofExcept (c.prepare a.tree a.root)
  let watcher ← ofExcept (c.spawnWatcher a.notifier root)
  let child ← ofExcept (c.spawnServer a.host a.spawn root)
  modify fun c => c.connect root url child watcher

def start (c : Client) (a : Attempt) : Client × Except ClientError Unit :=
  match (starting a).run c with
  | .ok () c => (c, .ok ())
  | .error e c => (c, .error e)

def initializeParams (c : Client) (process : Json) (root : Path) (url : Url) : Json :=
  Protocol.initializeParams process c.settings.id c.settings.options.traceOutput root url

def debugText (c : Client) : String :=
  "LanguageClient \x7b id: " ++ Quoted.ofString c.settings.id ++ ", name: " ++
    Quoted.ofString c.settings.name ++ ", state: " ++ c.life.label ++ ", server_options: " ++
    c.settings.server.debugText ++ ", .. \x7d"

end Client

def Config.client (config : Config) (command : String) (debug : Bool) : Client :=
  { settings :=
      { id := config.clientId
        name := config.clientName
        server := config.serverOptions command
        options := config.clientOptions
        debug
        timeouts := config.timeouts } }

end LspHost
