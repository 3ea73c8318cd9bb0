import LspHost.Client.Basic
import LspHost.Protocol.Document
import LspHost.Wire.Message

/-!
# The first exchange and the end of the connection

Each function is one step that no other activity of the client can divide: the first request goes
out, its answer is announced to the server, the capabilities are recorded, the client runs. A step
that does not fit the stage the exchange has reached changes nothing. The connection may end between
any two steps.
-/

namespace LspHost

inductive RequestFailure where
  | stopped
  | remote (e : RemoteError)
  | undecodable (m : Shape.Mismatch)
deriving Repr

def RequestFailure.text : RequestFailure → String
  | stopped => Documents.serviceStopped
  | remote e => e.text
  | undecodable m => "deserialization failed: " ++ m.message

/-- The result of a request as its shape understands it. -/
def decodeAnswer (s : Shape) (answer : Except RemoteError Json) : Except RequestFailure Json :=
  match answer with
  | .error e => .error (.remote e)
  | .ok j => (s.decode j.sorted).mapError .undecodable

namespace Client

/-- Hands over a request under the next number. Fails when the connection is over. -/
def handRequest (c : Client) (m : Nat → Outgoing) : Option (Client × Nat) :=
  match c.session with
  | some s =>
    if s.connected then
      some ({ c with session := some { s with nextId := s.nextId + 1 }
                     wire := c.wire ++ [m s.nextId] }, s.nextId)
    else none
  | none => none

/-- Hands over a notification, if the connection still stands. -/
def handNotification (c : Client) (m : Outgoing) : Client :=
  if c.isConnected then { c with wire := c.wire ++ [m] } else c

def failHandshake (c : Client) : Client :=
  { c.editSession fun s => { s with handshake := .ended, forwarder := none } with
    life := if c.life = .starting then .failed else c.life }

def sendInitialize (c : Client) (process : Json) : Client :=
  match c.session with
  | some { handshake := .unsent, root, url, .. } =>
    match c.handRequest (.initializeRequest · (c.initializeParams process root url)) with
    | some (c, id) => c.editSession fun s => { s with handshake := .waiting id }
    | none => c.failHandshake
  | _ => c

/-- A result has come: the server is told that it arrived. -/
def announce (c : Client) (capabilities : Json) : Client :=
  match c.session with
  | some { handshake := .waiting _, connected, .. } =>
    if connected then
      (c.handNotification .initialized).editSession fun s =>
        { s with handshake := .announced capabilities }
    else c.failHandshake
  | _ => c

def recordCapabilities (c : Client) : Client :=
  match c.session with
  | some { handshake := .announced capabilities, .. } =>
    { c.editSession fun s => { s with handshake := .recorded } with
      capabilities := c.capabilities.or (some capabilities) }
  | _ => c

/-- The client runs from here on, unless it has failed or been stopped meanwhile. -/
def promote (c : Client) : Client :=
  match c.session with
  | some { handshake := .recorded, .. } =>
    if c.life = .starting then
      { c.editSession fun s => { s with handshake := .forwarding } with life := .running }
    else c.editSession fun s => { s with handshake := .ended, forwarder := none }
  | _ => c

def forward (c : Client) (events : List FileEvent) : Client :=
  if events = [] then c
  else if c.isConnected then c.handNotification (.filesChanged events)
  else c.editSession fun s => { s with handshake := .ended, forwarder := none }

def disconnect (c : Client) : Client :=
  c.editSession fun s => { s with connected := false }

def markFailed (c : Client) : Client :=
  if c.life.isActive then { c with life := .failed } else c

end Client
end LspHost
